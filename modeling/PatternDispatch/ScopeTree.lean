import PatternDispatch.Environment

/-! Scopes that share their surroundings: every scope but the first kind has a parent, and several
may have the same one. Scopes are numbered in the order in which they were made, so a parent has a
smaller number than its children. -/
namespace PatternDispatch

/-- A scope and the number of its parent. -/
structure LinkedScope where
  parent : Option Nat
  scope : Scope

structure ScopeTree where
  nodes : List LinkedScope

namespace ScopeTree

/-- One scope without a parent. -/
def single : ScopeTree := ⟨[⟨none, .empty⟩]⟩

/-- A new scope inside another, and its number. -/
def child (t : ScopeTree) (parent : Nat) : Nat × ScopeTree :=
  (t.nodes.length, ⟨t.nodes ++ [⟨some parent, .empty⟩]⟩)

/-- The numbers of a scope and the scopes around it, from the inside out. A link that does not lead
to an earlier scope leads nowhere. -/
def path (t : ScopeTree) (i : Nat) : List Nat :=
  i :: match t.nodes[i]? with
    | some ⟨some p, _⟩ => if p < i then path t p else []
    | _ => []
termination_by i

def scopeAt (t : ScopeTree) (i : Nat) : Scope :=
  (t.nodes[i]?.map LinkedScope.scope).getD .empty

/-- Sets a variable of one scope. -/
def define (t : ScopeTree) (i : Nat) (n : Name) (v : Value) : ScopeTree :=
  ⟨t.nodes.modify i fun node => { node with scope := node.scope.define n v }⟩

/-- The value in the innermost scope that has the name. -/
def lookup? (t : ScopeTree) (i : Nat) (n : Name) : Option Value :=
  (t.path i).findSome? fun j => (t.scopeAt j).get? n

/-- Assigns to the innermost scope that has the name; `none` when none has. -/
def assign? (t : ScopeTree) (i : Nat) (n : Name) (v : Value) : Option ScopeTree :=
  ((t.path i).find? fun j => (t.scopeAt j).has n).map fun j => t.define j n v

end ScopeTree

end PatternDispatch
