import PatternDispatch.Binary64
import PatternDispatch.Identity
import PatternDispatch.Reference

/-! The values that patterns look at. Arrays, hashes, procedures and objects have an identity beside
their contents. What a procedure answers and how an object deconstructs itself is not part of the
value: a host keeps it under the identity. -/
namespace PatternDispatch

/-- Classes with a membership rule of their own. -/
inductive BuiltinClass where
  | object
  | nilClass
  | trueClass
  | falseClass
  | numeric
  | integer
  | float
  | string
  | symbol
  | array
  | hash
  | range
  | regexp
  | procedure
  | classObject
  deriving DecidableEq

def BuiltinClass.name : BuiltinClass → String
  | .object => "Object"
  | .nilClass => "NilClass"
  | .trueClass => "TrueClass"
  | .falseClass => "FalseClass"
  | .numeric => "Numeric"
  | .integer => "Integer"
  | .float => "Float"
  | .string => "String"
  | .symbol => "Symbol"
  | .array => "Array"
  | .hash => "Hash"
  | .range => "Range"
  | .regexp => "Regexp"
  | .procedure => "Proc"
  | .classObject => "Class"

/-- Every builtin class, once. -/
def BuiltinClass.all : List BuiltinClass :=
  [.object, .nilClass, .trueClass, .falseClass, .numeric, .integer, .float, .string, .symbol,
    .array, .hash, .range, .regexp, .procedure, .classObject]

/-- The builtin class of a name. -/
def BuiltinClass.ofName? (s : String) : Option BuiltinClass :=
  BuiltinClass.all.find? (·.name == s)

/-- A class: builtin, or one that a program defines under a name. -/
inductive ClassRef where
  | builtin (c : BuiltinClass)
  | user (name : Name)
  deriving DecidableEq

/-- A regular expression: its source, and the answer of whatever compiled it to whether some part of
a text matches. -/
structure Regex where
  source : String
  isMatch : String → Bool

/-- A value of the host language. A range may leave either bound open. The pairs of a hash keep the
order in which their keys were first inserted. -/
inductive Value where
  | nil
  | bool (b : Bool)
  | int (n : Int64)
  | float (x : Binary64)
  | symbol (name : Name)
  | range (start stop : Option Value) (exclusive : Bool)
  | classRef (c : ClassRef)
  | str (s : String)
  | array (id : Identity) (items : List Value)
  | hash (id : Identity) (pairs : List (Value × Value))
  | regex (r : Regex)
  | proc (id : Identity)
  | object (id : Identity) (className : Name) (ancestors : List Name)

instance : Inhabited Value := ⟨.nil⟩

/-- The pairs of a hash, in the order in which their keys were first inserted. -/
abbrev Pairs := List (Value × Value)

namespace Value

/-- Everything but `nil` and `false` is true in a condition. -/
def isTruthy : Value → Bool
  | .nil => false
  | .bool b => b
  | _ => true

def isNil : Value → Bool
  | .nil => true
  | _ => false

def int? : Value → Option Int64
  | .int n => some n
  | _ => none

def str? : Value → Option String
  | .str s => some s
  | _ => none

def symbol? : Value → Option Name
  | .symbol n => some n
  | _ => none

def items? : Value → Option (List Value)
  | .array _ items => some items
  | _ => none

def pairs? : Value → Option Pairs
  | .hash _ pairs => some pairs
  | _ => none

/-- The identity under which deconstruction answers may be kept. Only values that can carry such an
answer have one here; a procedure has an identity for equality alone. -/
def identity? : Value → Option Identity
  | .array id _ => some id
  | .hash id _ => some id
  | .object id _ _ => some id
  | _ => none

/-- The kind of a value as error messages name it. -/
def typeName : Value → String
  | .nil => "NilClass"
  | .bool true => "TrueClass"
  | .bool false => "FalseClass"
  | .int _ => "Integer"
  | .float _ => "Float"
  | .symbol _ => "Symbol"
  | .range _ _ _ => "Range"
  | .classRef _ => "Class"
  | .str _ => "String"
  | .array _ _ => "Array"
  | .hash _ _ => "Hash"
  | .regex _ => "Regexp"
  | .proc _ => "Proc"
  | .object _ _ _ => "Object"

end Value

/-- Which values belong to a builtin class. -/
def BuiltinClass.includes : BuiltinClass → Value → Bool
  | .object, _ => true
  | .nilClass, .nil => true
  | .trueClass, .bool b => b
  | .falseClass, .bool b => !b
  | .numeric, .int _ => true
  | .numeric, .float _ => true
  | .integer, .int _ => true
  | .float, .float _ => true
  | .string, .str _ => true
  | .symbol, .symbol _ => true
  | .array, .array _ _ => true
  | .hash, .hash _ _ => true
  | .range, .range _ _ _ => true
  | .regexp, .regex _ => true
  | .procedure, .proc _ => true
  | .classObject, .classRef _ => true
  | _, _ => false

/-- Type membership. An object belongs to its class and to its ancestors. -/
def ClassRef.includes : ClassRef → Value → Bool
  | .builtin c, v => c.includes v
  | .user n, .object _ className ancestors => className == n || ancestors.contains n
  | .user _, _ => false

def ClassRef.text (names : Interner) : ClassRef → String
  | .builtin c => c.name
  | .user n => names.text n

end PatternDispatch
