import PatternDispatch.Value.Pairs

/-! The two ways in which a value opens itself to patterns: as a sequence of items, and as a mapping
of keys. An array and a hash answer for themselves, an object through hooks that a program defines
for it, and a hook may answer with a value of the wrong kind. -/
namespace PatternDispatch

/-- What a pattern asks a value for. -/
inductive Capability where
  | sequence
  | mapping
  deriving DecidableEq, Hashable

/-- The hook through which an object answers. -/
def Capability.hookName : Capability → String
  | .sequence => "deconstruct"
  | .mapping => "deconstruct_keys"

/-- How an answer was of the wrong shape. -/
inductive ShapeError where
  | notArray (got : String)
  | notHash (got : String)
  /-- A requested key was answered under a text instead of a symbol. -/
  | nonSymbolKey (key : String)
  deriving DecidableEq

def ShapeError.capability : ShapeError → Capability
  | .notArray _ => .sequence
  | .notHash _ => .mapping
  | .nonSymbolKey _ => .mapping

/-- The answer to a request. That a value lacks a capability is an answer, not a failure. -/
inductive Deconstructed (α : Type) where
  | supported (payload : α)
  | unsupported
  | wrongShape (e : ShapeError)

namespace Deconstructed

def isSupported {α : Type} : Deconstructed α → Bool
  | .supported _ => true
  | _ => false

def map {α β : Type} (f : α → β) : Deconstructed α → Deconstructed β
  | .supported a => .supported (f a)
  | .unsupported => .unsupported
  | .wrongShape e => .wrongShape e

end Deconstructed

/-- A mapping answer: pairs, and the identity of the hash they belong to. -/
structure Mapping where
  id : Identity
  pairs : Pairs

/-- What a program defines for its procedures and objects, under their identities. Hooks may keep
state; a procedure's test may not. `none` stands for an object without the hook. -/
structure Methods (σ : Type) where
  test : Identity → Value → Bool
  sequence? : Identity → Option (StateM σ Value)
  mapping? : Identity → Option (Option (List Name) → StateM σ Value)

namespace Value

/-- A hook's answer, read as a sequence. -/
def asSequence : Value → Deconstructed (List Value)
  | .array _ items => .supported items
  | v => .wrongShape (.notArray v.typeName)

/-- A hook's answer, read as a mapping. -/
def asMapping : Value → Deconstructed Mapping
  | .hash id pairs => .supported ⟨id, pairs⟩
  | v => .wrongShape (.notHash v.typeName)

/-- The value's own answer as a sequence. -/
def deconstruct {σ : Type} (m : Methods σ) : Value → StateM σ (Deconstructed (List Value))
  | .array _ items => pure (.supported items)
  | .object id _ _ =>
    match m.sequence? id with
    | some hook => return (← hook).asSequence
    | none => pure .unsupported
  | _ => pure .unsupported

/-- The value's own answer as a mapping. A hash ignores which keys are requested; `none` requests
all of them. -/
def deconstructKeys {σ : Type} (m : Methods σ) (keys : Option (List Name)) :
    Value → StateM σ (Deconstructed Mapping)
  | .hash id pairs => pure (.supported ⟨id, pairs⟩)
  | .object id _ _ =>
    match m.mapping? id with
    | some hook => return (← hook keys).asMapping
    | none => pure .unsupported
  | _ => pure .unsupported

/-- Case equality, the test behind literals, pins and constants, with the pattern operand first. A
class tests membership, a range inclusion, a regular expression the text of a string or symbol, a
procedure whatever it likes; anything else tests equality. `symbolText` says how symbols read. -/
def caseEq (test : Identity → Value → Bool) (symbolText : Name → Option String) :
    Value → Value → Bool
  | .classRef c, v => c.includes v
  | .range a b exclusive, v => inRange a b exclusive v
  | .regex r, .str s => r.isMatch s
  | .regex r, .symbol n => (symbolText n).any r.isMatch
  | .regex _, _ => false
  | .proc id, v => test id v
  | p, v => p == v

end Value

end PatternDispatch
