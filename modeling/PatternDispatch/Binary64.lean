/-! Floating-point numbers as their sixty-four bits, with the two operations that matching needs: the
order of IEEE-754, and the conversion of an integer to the nearest number. No arithmetic is done on
them, so both are computed exactly, in integers. -/
namespace PatternDispatch

/-- A floating-point number: sign bit, eleven exponent bits, fifty-two fraction bits. -/
structure Binary64 where
  bits : UInt64
  deriving DecidableEq, Hashable

namespace Binary64

/-- The sign bit alone, which is `2 ^ 63`. -/
def signBit : Nat := 0x8000000000000000

/-- The bit above the fraction, which is `2 ^ 52`: the leading bit of a normal significand. -/
def leadingBit : Nat := 0x10000000000000

/-- The bits below the sign, read as a number. Magnitudes of equal sign are ordered as these. -/
def magnitude (x : Binary64) : Nat := x.bits.toNat % signBit

def isNegative (x : Binary64) : Bool := signBit ≤ x.bits.toNat

/-- The magnitude of the infinities; anything above is not a number. -/
def infinityMagnitude : Nat := 2047 * leadingBit

def isNaN (x : Binary64) : Bool := infinityMagnitude < x.magnitude

def isInfinite (x : Binary64) : Bool := x.magnitude == infinityMagnitude

/-- Position on the number line. Both zeros stand at 0. -/
def rank (x : Binary64) : Int := if x.isNegative then -x.magnitude else x.magnitude

/-- The order of IEEE-754: a NaN is not comparable with anything. -/
def cmp (x y : Binary64) : Option Ordering :=
  if x.isNaN || y.isNaN then none else some (compare x.rank y.rank)

/-- `m / 2 ^ s` rounded to the nearest integer, a tie to the even one. -/
def shiftRoundEven (m s : Nat) : Nat :=
  let unit := Nat.pow 2 s
  let q := m / unit
  let r := m % unit
  if unit < 2 * r ∨ (unit = 2 * r ∧ q % 2 = 1) then q + 1 else q

/-- Magnitude of the number nearest to a natural number below `2 ^ 64`. A significand that rounds
up to `2 ^ 53` carries into the exponent by itself. -/
def magnitudeOfNat (m : Nat) : Nat :=
  if m = 0 then 0
  else
    let e := m.log2
    let significand := if e ≤ 52 then m * Nat.pow 2 (52 - e) else shiftRoundEven m (e - 52)
    (e + 1022) * leadingBit + significand

/-- The number nearest to an integer, a tie to the even significand. -/
def ofInt64 (n : Int64) : Binary64 :=
  let m := magnitudeOfNat n.toInt.natAbs
  ⟨UInt64.ofNat (if n < 0 then signBit + m else m)⟩

/-- The first integer that is no float goes to its even neighbour. -/
example : ofInt64 9007199254740993 = ofInt64 9007199254740992 := by decide +kernel

example : (ofInt64 (-1)).bits = 0xbff0000000000000 := by decide +kernel

end Binary64

end PatternDispatch
