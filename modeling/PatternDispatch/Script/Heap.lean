import Std.Data.HashMap
import PatternDispatch.Script.Regex
import PatternDispatch.Value.Capability

/-! What a script says about its regular expressions, procedures and objects. A regular expression is
given by its source. A procedure's test is a small formula; an object's hooks give answers from a
list, or compute them from the request. -/
namespace PatternDispatch.Script

/-- The value of a regular expression, if its source is well formed. -/
def regex? (source : String) : Option Value := (Regex.ofSource? source).map .regex

/-- The test of a scripted procedure. -/
inductive Predicate where
  | always (answer : Bool)
  | equals (v : Value)
  | greater (n : Int64)
  | caseEquals (v : Value)
  | truthy
  | sized (n : Nat)
  | not (p : Predicate)

/-- `test` runs the procedures that a formula may mention. -/
def Predicate.holds (test : Identity → Value → Bool) : Predicate → Value → Bool
  | .always answer, _ => answer
  | .equals v, target => target == v
  | .greater n, .int m => n < m
  | .greater _, _ => false
  | .caseEquals v, target => v.caseEq test (fun _ => none) target
  | .truthy, target => target.isTruthy
  | .sized n, .array _ items => items.length == n
  | .sized n, .hash _ pairs => pairs.length == n
  | .sized _, _ => false
  | .not p, target => !p.holds test target

/-- How an object answers a request for its mapping. -/
inductive KeysHook where
  /-- One answer after the other; the last one repeats. -/
  | answers (vs : List Value)
  /-- The requested part of a hash, as a new hash; the hash itself when all keys are requested. -/
  | select (source : Value)
  /-- Each requested key under its index; `all` under `true` when all keys are requested. -/
  | echo (all : Name)

/-- The hooks of an object. -/
structure ObjectHooks where
  /-- The name under which calls are logged. -/
  tag : String
  /-- Answers to requests for a sequence; the last one repeats. -/
  sequence : Option (List Value)
  mapping : Option KeysHook

/-- The heap values that a script has defined. -/
structure Heap where
  nextSerial : Nat
  tests : Std.HashMap Identity (Value → Bool)
  objects : Std.HashMap Identity ObjectHooks

namespace Heap

def empty : Heap := ⟨0, ∅, ∅⟩

instance : Inhabited Heap := ⟨empty⟩

def fresh : StateM Heap Identity := fun h =>
  (⟨h.nextSerial⟩, { h with nextSerial := h.nextSerial + 1 })

/-- Runs a procedure. -/
def test (h : Heap) (id : Identity) (v : Value) : Bool :=
  match h.tests[id]? with
  | some t => t v
  | none => false

def newArray (items : List Value) : StateM Heap Value := return .array (← fresh) items

def newHash (pairs : Pairs) : StateM Heap Value := return .hash (← fresh) pairs

/-- A procedure may mention those that were there before it. -/
def newProc (p : Predicate) : StateM Heap Value := do
  let id ← fresh
  modify fun h => { h with tests := h.tests.insert id (p.holds h.test) }
  return .proc id

def newObject (className : Name) (ancestors : List Name) (hooks : ObjectHooks) :
    StateM Heap Value := do
  let id ← fresh
  modify fun h => { h with objects := h.objects.insert id hooks }
  return .object id className ancestors

/-- A value inside a number of arrays of one item. -/
def nestInArrays : Nat → Value → StateM Heap Value
  | 0, v => return v
  | n + 1, v => do nestInArrays n (← newArray [v])

/-- A value inside a number of hashes of one pair. -/
def nestInHashes (key : Name) : Nat → Value → StateM Heap Value
  | 0, v => return v
  | n + 1, v => do nestInHashes key n (← newHash [(.symbol key, v)])

end Heap

end PatternDispatch.Script
