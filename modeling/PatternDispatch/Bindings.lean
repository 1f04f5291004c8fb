import PatternDispatch.Environment
import PatternDispatch.Pattern

/-! The bindings that one attempt to match has made so far. A branch that fails is undone by cutting
the bindings back to the number there were when it began. -/
namespace PatternDispatch

/-- Bindings, the latest first. A target may be bound more than once; the latest value counts. -/
structure Bindings where
  latestFirst : List (BindTarget × Value)

namespace Bindings

def empty : Bindings := ⟨[]⟩

instance : Inhabited Bindings := ⟨empty⟩

/-- The bindings in the order in which they were made. -/
def toList (b : Bindings) : List (BindTarget × Value) := b.latestFirst.reverse

def size (b : Bindings) : Nat := b.latestFirst.length

def push (b : Bindings) (t : BindTarget) (v : Value) : Bindings := ⟨(t, v) :: b.latestFirst⟩

/-- The value bound last to a target. -/
def get? (b : Bindings) (t : BindTarget) : Option Value := b.latestFirst.lookup t

/-- The targets bound, each once, in the order of their first binding. -/
def targets (b : Bindings) : List BindTarget := (b.toList.map Prod.fst).eraseDups

/-- Keeps the first `mark` bindings. -/
def rollback (b : Bindings) (mark : Nat) : Bindings :=
  ⟨b.latestFirst.drop (b.size - mark)⟩

/-- A binding of a local variable. -/
def localBinding? : BindTarget × Value → Option (Name × Value)
  | (.localVar n, v) => some (n, v)
  | (.external _, _) => none

/-- The bindings of local variables, in the order in which they were made. -/
def locals (b : Bindings) : List (Name × Value) := b.toList.filterMap localBinding?

/-- An environment with a new scope that holds the local bindings. -/
def scopeIn (b : Bindings) (env : Environment) : Environment :=
  b.locals.foldl (fun env p => env.define p.1 p.2) env.push

@[simp]
theorem toList_empty : empty.toList = [] := rfl

@[simp]
theorem toList_push (b : Bindings) (t : BindTarget) (v : Value) :
    (b.push t v).toList = b.toList ++ [(t, v)] := by
  simp [toList, push]

@[simp]
theorem size_push (b : Bindings) (t : BindTarget) (v : Value) :
    (b.push t v).size = b.size + 1 := rfl

@[simp]
theorem length_toList (b : Bindings) : b.toList.length = b.size := by
  simp [toList, size]

@[simp]
theorem rollback_size (b : Bindings) : b.rollback b.size = b := by
  simp [rollback]

/-- Cutting back to a mark forgets everything bound after it. -/
theorem rollback_push {b : Bindings} {mark : Nat} (t : BindTarget) (v : Value)
    (h : mark ≤ b.size) : (b.push t v).rollback mark = b.rollback mark := by
  have hs : b.size + 1 - mark = (b.size - mark) + 1 := by omega
  simp only [rollback, size_push, hs]
  rfl

end Bindings

end PatternDispatch
