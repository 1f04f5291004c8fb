import PatternDispatch.Value.Equality

/-! Patterns. Matching binds values to targets; a target is a local variable, or one outside that
the host writes. -/
namespace PatternDispatch

/-- Where a pinned or constant operand comes from. -/
inductive ValueRef where
  /-- A target bound earlier in the same match, else a visible variable. -/
  | localVar (name : Name)
  /-- Likewise a target, else what the host resolves. -/
  | external (r : ExternalRef)
  /-- An expression that the host evaluates each time it is reached. -/
  | expr (e : ExprId)
  | inline (v : Value)

/-- Where a matched value goes. -/
inductive BindTarget where
  | localVar (name : Name)
  | external (r : ExternalRef)
  deriving DecidableEq, Hashable

def BindTarget.localVar? : BindTarget → Option Name
  | .localVar n => some n
  | .external _ => none

/-- A place for any number of items. -/
inductive Splat where
  | anonymous
  | named (t : BindTarget)
  deriving DecidableEq

def Splat.target? : Splat → Option BindTarget
  | .anonymous => none
  | .named t => some t

/-- What a hash pattern says about keys that its entries do not name. -/
inductive HashRest where
  /-- Nothing: they are ignored. -/
  | absent
  /-- There are none. -/
  | closed
  /-- They are ignored, and the pattern says so. -/
  | ignored
  /-- They are bound, with their values, as a new hash. -/
  | named (t : BindTarget)
  deriving DecidableEq

mutual

inductive Pattern where
  /-- The literal, as pattern operand, is case equal to the value. -/
  | literal (v : Value)
  | binding (t : BindTarget)
  | wildcard
  /-- A wildcard with a name, which it does not bind. -/
  | discard (name : Name)
  | pin (r : ValueRef)
  /-- The first branch that matches. -/
  | either (branches : List Pattern)
  /-- Binds what the inner pattern has matched. -/
  | capture (inner : Pattern) (t : BindTarget)
  /-- The constant is case equal to the value, and the inner pattern matches if there is one. -/
  | constant (r : ValueRef) (inner : Option Pattern)
  | list (shape : ListPattern)
  | hash (shape : HashPattern)

/-- Consecutive items, with anything before and after them. -/
structure FindWindow where
  before : Splat
  elements : List Pattern
  after : Splat

/-- Pattern for a sequence. A window stands alone; a rest stands between leading and trailing
patterns; without either, the leading patterns match all items, or the first ones if the pattern is
open at its end. Other combinations are not written by any program, but have a meaning: a window
hides everything else, and without a rest the trailing patterns only count. -/
structure ListPattern where
  leading : List Pattern
  find : Option FindWindow
  rest : Option Splat
  trailing : List Pattern
  openEnd : Bool

/-- Pattern for a mapping with symbol keys. -/
structure HashPattern where
  entries : List (Name × Pattern)
  rest : HashRest

end

namespace ListPattern

/-- Items matched one by one. -/
def exact (ps : List Pattern) : ListPattern := ⟨ps, none, none, [], false⟩

/-- Items matched at both ends. -/
def withRest (leading : List Pattern) (rest : Splat) (trailing : List Pattern) : ListPattern :=
  ⟨leading, none, some rest, trailing, false⟩

/-- A window anywhere among the items. -/
def window (before : Splat) (elements : List Pattern) (after : Splat) : ListPattern :=
  ⟨[], some ⟨before, elements, after⟩, none, [], false⟩

/-- Items matched at the start. -/
def openEnded (leading : List Pattern) : ListPattern := ⟨leading, none, none, [], true⟩

/-- The least number of items of a sequence that can match. -/
def minLen (p : ListPattern) : Nat :=
  match p.find with
  | some w => w.elements.length
  | none => p.leading.length + p.trailing.length

end ListPattern

namespace HashPattern

def keys (p : HashPattern) : List Name := p.entries.map Prod.fst

/-- The keys to ask for: those of the entries in their order, or all keys (`none`) when the others
are to be bound. -/
def requestedKeys (p : HashPattern) : Option (List Name) :=
  match p.rest with
  | .named _ => none
  | _ => some p.keys

end HashPattern

namespace Pattern

mutual

/-- The targets of a pattern, in the order in which a match binds them. -/
def targets : Pattern → List BindTarget
  | .literal _ => []
  | .binding t => [t]
  | .wildcard => []
  | .discard _ => []
  | .pin _ => []
  | .either branches => targetsAll branches
  | .capture inner t => targets inner ++ [t]
  | .constant _ none => []
  | .constant _ (some inner) => targets inner
  | .list ⟨leading, none, rest, trailing, _⟩ =>
    targetsAll leading ++ (rest.bind Splat.target?).toList ++ targetsAll trailing
  | .list ⟨leading, some ⟨before, elements, after⟩, rest, trailing, _⟩ =>
    targetsAll leading ++
      (before.target?.toList ++ targetsAll elements ++ after.target?.toList) ++
      (rest.bind Splat.target?).toList ++ targetsAll trailing
  | .hash ⟨entries, .named t⟩ => targetsEntries entries ++ [t]
  | .hash ⟨entries, _⟩ => targetsEntries entries

def targetsAll : List Pattern → List BindTarget
  | [] => []
  | p :: ps => targets p ++ targetsAll ps

def targetsEntries : List (Name × Pattern) → List BindTarget
  | [] => []
  | (_, p) :: ps => targets p ++ targetsEntries ps

end

/-- The local variables that a match may bind. -/
def bindingNames (p : Pattern) : List Name := p.targets.filterMap BindTarget.localVar?

end Pattern

end PatternDispatch
