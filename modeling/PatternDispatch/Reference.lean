import PatternDispatch.Name

/-! Handles to what lives outside a pattern: expressions that only the host can evaluate, and named
variables of an object, a class or the whole program. -/
namespace PatternDispatch

/-- Handle to a host expression. The engine passes it back and never looks inside. -/
structure ExprId where
  index : Nat
  deriving DecidableEq, Hashable

namespace ExprId

/-- The handle that is never given to an expression. -/
def invalid : ExprId := ⟨4294967295⟩

instance : Inhabited ExprId := ⟨invalid⟩

def isValid (e : ExprId) : Bool := e != invalid

def debug (e : ExprId) : String :=
  if e.isValid then s!"ExprId({e.index})" else "ExprId::INVALID"

end ExprId

/-- Where an external variable lives. -/
inductive ExternalKind where
  | instanceLevel
  | classLevel
  | global
  | constant
  deriving DecidableEq, Hashable

/-- The mark that stands before the name of such a variable; a constant has none. -/
def ExternalKind.sigil : ExternalKind → String
  | .instanceLevel => "@"
  | .classLevel => "@@"
  | .global => "$"
  | .constant => ""

/-- A variable that the host reads and writes. -/
structure ExternalRef where
  kind : ExternalKind
  name : Name
  deriving DecidableEq, Hashable

/-- The reference as it is written in a program. -/
def ExternalRef.text (names : Interner) (r : ExternalRef) : String :=
  r.kind.sigil ++ names.text r.name

end PatternDispatch
