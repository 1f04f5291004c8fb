import PatternDispatch.Binary64

/-! Decimal text of floating-point numbers. Among the decimals that read back as the number, the
shortest is written, and of the shortest the nearest. All comparisons are made on integers. -/
namespace PatternDispatch.Binary64

/-- A positive number `num / den`. -/
structure Ratio where
  num : Nat
  den : Nat

/-- Significand and binary exponent of a finite magnitude: the value is `m * 2 ^ q`. -/
def significand (magnitude : Nat) : Nat × Int :=
  let e : Nat := magnitude / leadingBit
  let f : Nat := magnitude % leadingBit
  if e = 0 then (f, -1074) else (leadingBit + f, (e : Int) - 1075)

/-- `m * 2 ^ q` as a ratio. -/
def Ratio.scaled (m : Nat) (q : Int) : Ratio :=
  if q < 0 then ⟨m, Nat.pow 2 (-q).toNat⟩ else ⟨m * Nat.pow 2 q.toNat, 1⟩

/-- Order of `d * 10 ^ k` against a ratio. -/
def cmpPower (d : Nat) (k : Int) (r : Ratio) : Ordering :=
  if k < 0 then compare (d * r.den) (r.num * Nat.pow 10 (-k).toNat)
  else compare (d * Nat.pow 10 k.toNat * r.den) r.num

/-- Number of decimal digits; 0 has none. -/
def digitCount (n : Nat) : Nat := if n = 0 then 0 else (Nat.toDigits 10 n).length

/-- The `e` with `10 ^ (e - 1) ≤ r < 10 ^ e`. -/
def decimalExponent (r : Ratio) : Int :=
  if r.den ≤ r.num then digitCount (r.num / r.den)
  else 1 - (digitCount ((r.den - 1) / r.num) : Int)

/-- The whole part of `r / 10 ^ k`. -/
def wholePart (r : Ratio) (k : Int) : Nat :=
  if k < 0 then r.num * Nat.pow 10 (-k).toNat / r.den else r.num / (r.den * Nat.pow 10 k.toNat)

/-- The decimals that round to a number: those between two ends, the ends among them when the
significand is even. -/
structure RoundingInterval where
  low : Ratio
  value : Ratio
  high : Ratio
  closed : Bool

/-- Halfway to the neighbours of a magnitude. Below a power of two the neighbours are closer. -/
def RoundingInterval.ofMagnitude (magnitude : Nat) : RoundingInterval :=
  let (m, q) := significand magnitude
  let below := if magnitude % leadingBit = 0 ∧ 2 * leadingBit ≤ magnitude then 1 else 2
  { low := .scaled (4 * m - below) (q - 2)
    value := .scaled (4 * m) (q - 2)
    high := .scaled (4 * m + 2) (q - 2)
    closed := m % 2 = 0 }

/-- Whether `d * 10 ^ k` rounds to the number. -/
def RoundingInterval.contains (i : RoundingInterval) (d : Nat) (k : Int) : Bool :=
  match cmpPower d k i.low, cmpPower d k i.high with
  | .gt, .lt => true
  | .eq, _ => i.closed
  | _, .eq => i.closed
  | _, _ => false

/-- On the grid of the multiples of `10 ^ k`: the neighbour of the value that rounds to it, the
nearer one if both do, and the upper one if they are equally near. -/
def RoundingInterval.onGrid? (i : RoundingInterval) (k : Int) : Option Nat :=
  let d := wholePart i.value k
  match i.contains d k, i.contains (d + 1) k with
  | true, false => some d
  | false, true => some (d + 1)
  | true, true =>
    -- The midpoint of the two neighbours, on a grid ten times as fine.
    if cmpPower (10 * d + 5) (k - 1) i.value == .gt then some d else some (d + 1)
  | false, false => none

/-- A decimal `0.d₁d₂… * 10 ^ exponent`. -/
structure Decimal where
  digits : List Char
  exponent : Int

/-- Zeros at the end of a digit string carry nothing. -/
def trimZeros (ds : List Char) : List Char := (ds.reverse.dropWhile (· == '0')).reverse

/-- The decimal `d * 10 ^ k`, without zeros at its end. -/
def Decimal.ofGrid (d : Nat) (k : Int) : Decimal :=
  let ds := Nat.toDigits 10 d
  ⟨trimZeros ds, k + ds.length⟩

/-- The shortest decimal that reads back as a finite positive magnitude; seventeen digits always
suffice. -/
def shortest (magnitude : Nat) : Decimal :=
  let i := RoundingInterval.ofMagnitude magnitude
  let e := decimalExponent i.value
  let found := (List.range 17).findSome? fun n =>
    let k := e - (n + 1 : Nat)
    (i.onGrid? k).map (Decimal.ofGrid · k)
  found.getD ⟨['0'], 1⟩

/-- How numbers are laid out as text. -/
structure Layout where
  nan : String
  infinity : String
  /-- Exponents (in scientific notation) from `positionalFrom` to below `positionalTo` are written
  with the point in place. -/
  positionalFrom : Int
  positionalTo : Int

/-- The layout of inspected values. -/
def Layout.inspect : Layout := ⟨"NaN", "Infinity", -4, 16⟩

/-- The layout of debug texts, which differs in the name of infinity. -/
def Layout.debug : Layout := { Layout.inspect with infinity := "inf" }

def zeros (n : Nat) : List Char := List.replicate n '0'

/-- The point in its place, and at least one digit on either side. -/
def Decimal.positional (d : Decimal) : List Char :=
  if d.exponent ≤ 0 then ['0', '.'] ++ zeros (-d.exponent).toNat ++ d.digits
  else
    let n := d.exponent.toNat
    let padded := d.digits ++ zeros (n - d.digits.length)
    let fraction := padded.drop n
    padded.take n ++ ['.'] ++ (if fraction.isEmpty then ['0'] else fraction)

/-- One digit before the point, and the power of ten after an `e`. -/
def Decimal.scientific (d : Decimal) : List Char :=
  let fraction := d.digits.drop 1
  d.digits.take 1 ++ (if fraction.isEmpty then [] else '.' :: fraction) ++ 'e' ::
    (toString (d.exponent - 1)).toList

def Decimal.write (l : Layout) (d : Decimal) : List Char :=
  if l.positionalFrom < d.exponent ∧ d.exponent ≤ l.positionalTo then d.positional
  else d.scientific

/-- The text of a number: the sign of a zero is kept, that of a NaN is not shown. -/
def write (l : Layout) (x : Binary64) : String :=
  if x.isNaN then l.nan
  else
    let body :=
      if x.isInfinite then l.infinity
      else if x.magnitude = 0 then "0.0"
      else String.ofList ((shortest x.magnitude).write l)
    if x.isNegative then "-" ++ body else body

example : (⟨0x4341c37937e07fff⟩ : Binary64).write .inspect = "9999999999999998.0" := by
  decide +kernel

example : (⟨0x4341c37937e08000⟩ : Binary64).write .inspect = "1e16" := by decide +kernel

example : (⟨0x8000000000000000⟩ : Binary64).write .inspect = "-0.0" := by decide +kernel

/-- The least positive number: of the six digits that read back, the nearest. -/
example : (⟨1⟩ : Binary64).write .inspect = "5e-324" := by decide +kernel

end PatternDispatch.Binary64
