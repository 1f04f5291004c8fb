import PatternDispatch.Script.Regex.CharacterKinds

/-! Regular expressions as trees, and the search for a part of a text that matches one. A set of
positions of the text is a number with a bit for each: an expression sends the positions where a
match may begin to those where it may end. -/
namespace PatternDispatch.Script.Regex
open Text

/-- A member of a character class. -/
inductive ClassItem where
  | range (low high : Char)
  | charSet (set : CharSet) (negated : Bool)

/-- A character class. -/
structure CharClass where
  negated : Bool
  items : List ClassItem

def ClassItem.contains (c : Char) : ClassItem → Bool
  | .range low high => low ≤ c && c ≤ high
  | .charSet set negated => set.contains c != negated

def CharClass.single (c : Char) : CharClass := ⟨false, [.range c c]⟩

/-- Every character but the line feed. -/
def CharClass.any : CharClass := ⟨true, [.range '\n' '\n']⟩

/-- Membership; the case of ASCII letters may be ignored. -/
def CharClass.contains (ignoreCase : Bool) (k : CharClass) (c : Char) : Bool :=
  let has (x : Char) : Bool := k.items.any (·.contains x)
  (has c || (ignoreCase && (has c.toLower || has c.toUpper))) != k.negated

inductive Expr where
  | empty
  | chars (ignoreCase : Bool) (set : CharClass)
  | textStart
  | textEnd
  | wordBoundary (negated : Bool)
  | seq (first second : Expr)
  | alt (left right : Expr)
  /-- At least `min` times, and at most `max` times if there is a bound. -/
  | times (body : Expr) (min : Nat) (max : Option Nat)

/-- A set of positions in a text, as the bits of a number. Position `i` stands before character
`i`. -/
abbrev Positions := Nat

/-- One position. -/
def Positions.only (i : Nat) : Positions := 1 <<< i

/-- The positions from 0 to `i`. -/
def Positions.upTo (i : Nat) : Positions := (1 <<< (i + 1)) - 1

/-- The positions whose entry in the list is true. -/
def Positions.ofFlags : List Bool → Positions
  | [] => 0
  | b :: bs => 2 * ofFlags bs + b.toNat

/-- Applies `f` a number of times. -/
def iterate (f : Positions → Positions) : Nat → Positions → Positions
  | 0, s => s
  | n + 1, s => iterate f n (f s)

/-- The positions reached by up to `n` applications of `f`. -/
def reachedWithin (f : Positions → Positions) : Nat → Positions → Positions
  | 0, s => s
  | n + 1, s =>
    let t := s ||| f s
    if t = s then s else reachedWithin f n t

/-- For each position, whether exactly one of its two neighbours is a word character. -/
def boundaryFlags (before : Bool) : List Char → List Bool
  | [] => [before]
  | c :: cs => let w := wordCharacter.contains c; (before != w) :: boundaryFlags w cs

namespace Expr

/-- The ends of the matches that begin at one of the given positions. An unbounded repetition adds a
position in every round but its last, so the text's length bounds the rounds. -/
def ends (text : List Char) : Expr → Positions → Positions
  | .empty, s => s
  | .chars ignoreCase k, s =>
    2 * (s &&& Positions.ofFlags (text.map (k.contains ignoreCase)))
  | .textStart, s => s &&& 1
  | .textEnd, s => s &&& Positions.only text.length
  | .wordBoundary negated, s =>
    s &&& Positions.ofFlags ((boundaryFlags false text).map (· != negated))
  | .seq a b, s => b.ends text (a.ends text s)
  | .alt a b, s => a.ends text s ||| b.ends text s
  | .times a min max, s =>
    let rounds := match max with
      | some n => n - min
      | none => text.length + 1
    reachedWithin (a.ends text) rounds (iterate (a.ends text) min s)

/-- Whether some part of the text matches. -/
def search (e : Expr) (text : String) : Bool :=
  let cs := text.toList
  e.ends cs (Positions.upTo cs.length) != 0

end Expr

end PatternDispatch.Script.Regex
