import PatternDispatch.Script.Regex.Expr

/-! The tokens of a regular expression's source. A class in brackets, an escape and a repetition with
its mark are one token each. Sources outside the grammar have no tokens. A lexing function gives
what it read and what follows. -/
namespace PatternDispatch.Script.Regex

inductive Token where
  | chars (set : CharClass)
  | textStart
  | textEnd
  | wordBoundary (negated : Bool)
  | times (min : Nat) (max : Option Nat)
  /-- An opening parenthesis, with the case flag if it sets one. -/
  | opening (ignoreCase : Option Bool)
  | closing
  | bar
  /-- A flag that holds to the end of the group. -/
  | ignoreCase (on : Bool)

/-- What stands after a backslash for characters of a kind. -/
def classEscape? : Char → Option ClassItem
  | 'd' => some (.charSet decimalDigit false)
  | 'D' => some (.charSet decimalDigit true)
  | 'w' => some (.charSet wordCharacter false)
  | 'W' => some (.charSet wordCharacter true)
  | 's' => some (.charSet blank false)
  | 'S' => some (.charSet blank true)
  | _ => none

/-- What stands after a backslash for one character: a letter for a control character, or any ASCII
character that is no letter, digit or angle bracket for itself. -/
def charEscape? (c : Char) : Option Char :=
  match c with
  | 'a' => some '\x07'
  | 'f' => some '\x0c'
  | 'n' => some '\n'
  | 'r' => some '\r'
  | 't' => some '\t'
  | 'v' => some '\x0b'
  | _ => if c.toNat < 128 ∧ !c.isAlphanum ∧ c ≠ '<' ∧ c ≠ '>' then some c else none

/-- One operand in a class: a character or a kind of characters. -/
def classOperand : List Char → Option (ClassItem × List Char)
  | '\x5c' :: c :: cs =>
    match classEscape? c with
    | some item => some (item, cs)
    | none => (charEscape? c).map fun x => (.range x x, cs)
  | ['\x5c'] => none
  | [] => none
  | c :: cs => some (.range c c, cs)

/-- Two operands with a hyphen between them; both are single characters, in order. -/
def rangeBetween? : ClassItem → ClassItem → Option ClassItem
  | .range a _, .range b _ => if a ≤ b then some (.range a b) else none
  | _, _ => none

/-- The members of a class up to its closing bracket. A bracket inside and a doubled operator are
outside the grammar. A hyphen is an operator only between two operands. -/
def classItems : Nat → List Char → List ClassItem → Option (List ClassItem × List Char)
  | 0, _, _ => none
  | _, [], _ => none
  | _, ']' :: cs, items => some (items, cs)
  | _, '[' :: _, _ => none
  | _, '&' :: '&' :: _, _ => none
  | _, '-' :: '-' :: _, _ => none
  | _, '~' :: '~' :: _, _ => none
  | fuel + 1, cs, items => do
    let (first, rest) ← classOperand cs
    match rest with
    | [] => none
    | '-' :: ']' :: _ | '-' :: '-' :: _ => classItems fuel rest (items ++ [first])
    | '-' :: rest =>
      let (second, rest) ← classOperand rest
      classItems fuel rest (items ++ [← rangeBetween? first second])
    | _ => classItems fuel rest (items ++ [first])

/-- A class after its opening bracket. Hyphens at the start, or else a closing bracket there, stand
for themselves. -/
def charClass (cs : List Char) : Option (CharClass × List Char) := do
  let (negated, cs) := match cs with
    | '^' :: r => (true, r)
    | _ => (false, cs)
  let hyphens := cs.takeWhile (· == '-')
  let rest := cs.dropWhile (· == '-')
  let start := hyphens.map fun c => ClassItem.range c c
  let (start, rest) := match start, rest with
    | [], ']' :: r => ([ClassItem.range ']' ']'], r)
    | _, _ => (start, rest)
  let (items, rest) ← classItems (rest.length + 1) rest start
  return (⟨negated, items⟩, rest)

def skipBlanks (cs : List Char) : List Char := cs.dropWhile blank.contains

/-- Largest count of a repetition. -/
def maxCount : Nat := 4294967295

/-- A decimal number, with white space around it. -/
def count (cs : List Char) : Option (Nat × List Char) :=
  let cs := skipBlanks cs
  let ds := cs.takeWhile Char.isDigit
  let n := ds.foldl (fun n d => 10 * n + (d.toNat - '0'.toNat)) 0
  if ds.isEmpty ∨ maxCount < n then none else some (n, skipBlanks (cs.dropWhile Char.isDigit))

/-- The inside of a counted repetition, after its opening brace. -/
def counts (cs : List Char) : Option ((Nat × Option Nat) × List Char) := do
  let (min, cs) ← count cs
  match cs with
  | '\x7d' :: cs => return ((min, some min), cs)
  | ',' :: cs =>
    match skipBlanks cs with
    | '\x7d' :: cs => return ((min, none), cs)
    | cs =>
      let (max, cs) ← count cs
      match cs with
      | '\x7d' :: cs => if min ≤ max then return ((min, some max), cs) else none
      | _ => none
  | _ => none

/-- The mark of a reluctant repetition. Whether a text matches does not depend on it. -/
def skipReluctant : List Char → List Char
  | '?' :: cs => cs
  | cs => cs

/-- One token. -/
def token : List Char → Option (Token × List Char)
  | [] => none
  | '\x5c' :: cs =>
    match cs with
    | [] => none
    | 'A' :: cs => some (.textStart, cs)
    | 'z' :: cs => some (.textEnd, cs)
    | 'b' :: cs => some (.wordBoundary false, cs)
    | 'B' :: cs => some (.wordBoundary true, cs)
    | c :: cs =>
      match classEscape? c with
      | some item => some (.chars ⟨false, [item]⟩, cs)
      | none => (charEscape? c).map fun x => (.chars (.single x), cs)
  | '[' :: cs => (charClass cs).map fun (k, cs) => (.chars k, cs)
  | '(' :: '?' :: cs =>
    match cs with
    | ':' :: cs => some (.opening none, cs)
    | 'i' :: ':' :: cs => some (.opening (some true), cs)
    | '-' :: 'i' :: ':' :: cs => some (.opening (some false), cs)
    | 'i' :: ')' :: cs => some (.ignoreCase true, cs)
    | '-' :: 'i' :: ')' :: cs => some (.ignoreCase false, cs)
    | _ => none
  | '(' :: cs => some (.opening none, cs)
  | ')' :: cs => some (.closing, cs)
  | '|' :: cs => some (.bar, cs)
  | '^' :: cs => some (.textStart, cs)
  | '$' :: cs => some (.textEnd, cs)
  | '.' :: cs => some (.chars .any, cs)
  | '*' :: cs => some (.times 0 none, skipReluctant cs)
  | '+' :: cs => some (.times 1 none, skipReluctant cs)
  | '?' :: cs => some (.times 0 (some 1), skipReluctant cs)
  | '\x7b' :: cs => (counts cs).map fun ((min, max), cs) => (.times min max, skipReluctant cs)
  | c :: cs => some (.chars (.single c), cs)

/-- The tokens of a source. Every token takes at least one character. -/
def tokens? : Nat → List Char → Option (List Token)
  | _, [] => some []
  | 0, _ => none
  | fuel + 1, cs => do
    let (t, rest) ← token cs
    return t :: (← tokens? fuel rest)

end PatternDispatch.Script.Regex
