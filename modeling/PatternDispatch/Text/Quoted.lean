import PatternDispatch.Text.Unprintable
import PatternDispatch.Text.CombiningMark

/-! Quoted text: a text between double quotes, with escapes for what cannot stand there or would not
be seen. Two styles differ in the apostrophe and in where a combining mark is escaped. -/
namespace PatternDispatch.Text

/-- Where a combining mark is shown by number. Elsewhere it is written as it is and combines with
the character before it. -/
inductive MarkEscapes where
  | atStart
  | everywhere
  deriving DecidableEq

/-- What a style of quoting decides. -/
structure QuoteStyle where
  escapeApostrophe : Bool
  marks : MarkEscapes

/-- The style of inspected values: a mark is escaped only where nothing stands before it. -/
def QuoteStyle.inspect : QuoteStyle := ⟨true, .atStart⟩

/-- The style of debug texts. -/
def QuoteStyle.debug : QuoteStyle := ⟨false, .everywhere⟩

def backslash : Char := '\x5c'

def quotationMark : Char := '\x22'

def apostrophe : Char := '\x27'

/-- A code point by its number, in hexadecimal. -/
def codePointEscape (c : Char) : List Char :=
  [backslash, 'u', '\x7b'] ++ Nat.toDigits 16 c.toNat ++ ['\x7d']

/-- The letter that follows the backslash, for characters that have an escape of their own. -/
def shortEscape? (s : QuoteStyle) (c : Char) : Option Char :=
  if c = '\x00' then some '0'
  else if c = '\t' then some 't'
  else if c = '\r' then some 'r'
  else if c = '\n' then some 'n'
  else if c = backslash then some backslash
  else if c = quotationMark then some quotationMark
  else if c = apostrophe ∧ s.escapeApostrophe then some apostrophe
  else none

/-- One character of a quoted text. `escapeMarks` says whether a combining mark here is escaped. -/
def escapeChar (s : QuoteStyle) (escapeMarks : Bool) (c : Char) : List Char :=
  match shortEscape? s c with
  | some e => [backslash, e]
  | none =>
    if escapeMarks && combiningMark.contains c then codePointEscape c
    else if unprintable.contains c then codePointEscape c
    else [c]

/-- The inside of a quoted text. -/
def escape (s : QuoteStyle) : List Char → List Char
  | [] => []
  | c :: cs => escapeChar s true c ++ cs.flatMap (escapeChar s (s.marks = .everywhere))

/-- A text between double quotes. -/
def quote (s : QuoteStyle) (t : String) : String :=
  String.ofList (quotationMark :: escape s t.toList ++ [quotationMark])

/-- A mark that follows a character is written as it is; the debug style shows its number. -/
example : quote .inspect "e\u0301" = "\"e\u0301\"" := by decide +kernel

example : quote .debug "e\u0301" = "\"e\\u\x7b301\x7d\"" := by decide +kernel

end PatternDispatch.Text
