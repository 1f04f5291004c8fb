import PatternDispatch.Value

/-! Order and equality of values. Order exists among numbers and among texts. Equality compares
numbers across integers and floats; key equality, by which hashes tell their keys apart, does not.
Hashes are equal when they have the same size and every pair of the left one is found in the right
one, whatever the order. -/
namespace PatternDispatch.Value

/-- Order of texts by code points. -/
def cmpText (s t : String) : Ordering := if s < t then .lt else if s = t then .eq else .gt

/-- Numbers compare with numbers and texts with texts; nothing else is comparable. An integer
compares with a float as the float nearest to it. -/
def cmp : Value → Value → Option Ordering
  | .int a, .int b => some (compare a.toInt b.toInt)
  | .int a, .float y => (Binary64.ofInt64 a).cmp y
  | .float x, .int b => x.cmp (.ofInt64 b)
  | .float x, .float y => x.cmp y
  | .str s, .str t => some (cmpText s t)
  | _, _ => none

mutual

/-- Equality. An array or a hash equals itself whatever it holds. Regular expressions are compared by
their sources. -/
def beq : Value → Value → Bool
  | .nil, .nil => true
  | .bool a, .bool b => a == b
  | .int a, .int b => a == b
  | .int a, .float y => (Value.int a).cmp (.float y) == some .eq
  | .float x, .int b => (Value.float x).cmp (.int b) == some .eq
  | .float x, .float y => (Value.float x).cmp (.float y) == some .eq
  | .symbol m, .symbol n => m == n
  | .range a b x, .range c d y => beqBound a c && beqBound b d && x == y
  | .classRef c, .classRef d => c == d
  | .str s, .str t => s == t
  | .array i xs, .array j ys => i == j || beqItems xs ys
  | .hash i ps, .hash j qs => i == j || ps.length == qs.length && beqPairs ps qs
  | .regex r, .regex s => r.source == s.source
  | .proc i, .proc j => i == j
  | .object i _ _, .object j _ _ => i == j
  | _, _ => false
termination_by a b => 2 * (sizeOf a + sizeOf b)

/-- Key equality: `1` and `1.0` are different keys, and floats are compared by their bits. -/
def eql : Value → Value → Bool
  | .int _, .float _ => false
  | .float _, .int _ => false
  | .float x, .float y => x == y
  | .array _ xs, .array _ ys => eqlItems xs ys
  | a, b => beq a b
termination_by a b => 2 * (sizeOf a + sizeOf b) + 1

/-- Equality of bounds; two open bounds are equal. -/
def beqBound : Option Value → Option Value → Bool
  | none, none => true
  | some a, some b => beq a b
  | _, _ => false
termination_by a b => 2 * (sizeOf a + sizeOf b)

def beqItems : List Value → List Value → Bool
  | [], [] => true
  | x :: xs, y :: ys => beq x y && beqItems xs ys
  | _, _ => false
termination_by xs ys => 2 * (sizeOf xs + sizeOf ys)

def eqlItems : List Value → List Value → Bool
  | [], [] => true
  | x :: xs, y :: ys => eql x y && eqlItems xs ys
  | _, _ => false
termination_by xs ys => 2 * (sizeOf xs + sizeOf ys) + 1

/-- Whether every pair on the left is found on the right. -/
def beqPairs : List (Value × Value) → List (Value × Value) → Bool
  | [], _ => true
  | (k, v) :: ps, qs => beqEntry k v qs && beqPairs ps qs
termination_by ps qs => 2 * (sizeOf ps + sizeOf qs)

/-- Whether the first pair with an equal key has an equal value. -/
def beqEntry (k v : Value) : List (Value × Value) → Bool
  | [] => false
  | (k', v') :: qs => if eql k' k then beq v' v else beqEntry k v qs
termination_by qs => 2 * (sizeOf k + sizeOf v + sizeOf qs)

end

instance : BEq Value := ⟨beq⟩

/-- Membership in a range. A value that cannot be compared with a bound is outside; a range without
bounds holds what can be compared with itself. -/
def inRange (start stop : Option Value) (exclusive : Bool) (v : Value) : Bool :=
  let aboveStart := match start with
    | some a => a.cmp v == some .lt || a.cmp v == some .eq
    | none => true
  aboveStart && match stop with
    | some b =>
      match v.cmp b with
      | some .lt => true
      | some .eq => !exclusive
      | _ => false
    | none => start.isSome || (v.cmp v).isSome

/-- Whether two values have an identity and share it. -/
def sameIdentity (v w : Value) : Bool :=
  match v.identity?, w.identity? with
  | some i, some j => i == j
  | _, _ => false

end PatternDispatch.Value
