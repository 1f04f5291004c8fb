import PatternDispatch.Error

/-! What a simple host keeps: expressions under handles, and external variables. -/
namespace PatternDispatch

/-- Entries under the handles 0, 1, … in order of registration. -/
structure ExprTable (α : Type) where
  entries : Array α

namespace ExprTable

variable {α : Type}

def empty : ExprTable α := ⟨#[]⟩

/-- The table is full when the only handle left is the invalid one. -/
def overflow (count : Nat) : CapacityError :=
  ⟨"expression table", "expressions", count, ExprId.invalid.index - 1⟩

/-- The handle for a new entry. -/
def register (t : ExprTable α) (a : α) : Except CapacityError (ExprId × ExprTable α) :=
  if t.entries.size < ExprId.invalid.index then
    .ok (⟨t.entries.size⟩, ⟨t.entries.push a⟩)
  else .error (overflow t.entries.size)

def find (t : ExprTable α) (e : ExprId) : Except EvalError α :=
  match t.entries[e.index]? with
  | some a => .ok a
  | none => .error (.custom ("unknown expression " ++ e.debug))

end ExprTable

/-- The values of external variables, each once. -/
structure Externals where
  values : List (ExternalRef × Value)

namespace Externals

def empty : Externals := ⟨[]⟩

def set (x : Externals) (r : ExternalRef) (v : Value) : Externals :=
  ⟨(r, v) :: x.values.filter fun entry => entry.1 != r⟩

def resolve (names : Interner) (x : Externals) (r : ExternalRef) : Except EvalError Value :=
  match x.values.lookup r with
  | some v => .ok v
  | none => .error (.undefinedVariable (r.text names))

/-- Any variable may be assigned, but no constant. -/
def assign (names : Interner) (x : Externals) (r : ExternalRef) (v : Value) :
    Except EvalError Externals :=
  if r.kind = .constant then .error (.host ("cannot bind constant " ++ names.text r.name))
  else .ok (x.set r v)

end Externals

end PatternDispatch
