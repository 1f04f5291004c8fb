import PatternDispatch.Script.Regex.Token
import PatternDispatch.Value

/-! The regular expressions of a script. They are read from their sources and compiled to a search.
A group is read on a stack: each open group keeps its finished alternatives, and the factors of the
alternative that is being read. -/
namespace PatternDispatch.Script.Regex

/-- A group that is being read. -/
structure OpenGroup where
  ignoreCase : Bool
  /-- Finished alternatives, the latest first. -/
  alternatives : List Expr
  /-- Factors of the alternative being read, the latest first. -/
  factors : List Expr
  /-- Whether the latest factor is what was read last, so that a repetition may follow. -/
  repeatable : Bool

namespace OpenGroup

def new (ignoreCase : Bool) : OpenGroup := ⟨ignoreCase, [], [], false⟩

def add (g : OpenGroup) (e : Expr) : OpenGroup :=
  { g with factors := e :: g.factors, repeatable := true }

/-- The alternative being read. -/
def alternative (g : OpenGroup) : Expr := g.factors.foldl (fun e f => .seq f e) .empty

def bar (g : OpenGroup) : OpenGroup :=
  { g with alternatives := g.alternative :: g.alternatives, factors := [], repeatable := false }

def close (g : OpenGroup) : Expr := g.alternatives.foldl (fun e a => .alt a e) g.alternative

/-- A repetition applies to the factor before it; there must be one. -/
def repeatLast? (g : OpenGroup) (min : Nat) (max : Option Nat) : Option OpenGroup :=
  match g.repeatable, g.factors with
  | true, f :: fs => some { g with factors := .times f min max :: fs }
  | _, _ => none

end OpenGroup

/-- Reads tokens with the innermost group at hand and the groups around it on a stack. -/
def readTokens? : List Token → OpenGroup → List OpenGroup → Option Expr
  | [], g, [] => some g.close
  | [], _, _ :: _ => none
  | .chars k :: ts, g, outer => readTokens? ts (g.add (.chars g.ignoreCase k)) outer
  | .textStart :: ts, g, outer => readTokens? ts (g.add .textStart) outer
  | .textEnd :: ts, g, outer => readTokens? ts (g.add .textEnd) outer
  | .wordBoundary negated :: ts, g, outer => readTokens? ts (g.add (.wordBoundary negated)) outer
  | .times min max :: ts, g, outer => do readTokens? ts (← g.repeatLast? min max) outer
  | .bar :: ts, g, outer => readTokens? ts g.bar outer
  | .ignoreCase on :: ts, g, outer =>
    readTokens? ts { g with ignoreCase := on, repeatable := false } outer
  | .opening flag :: ts, g, outer =>
    readTokens? ts (.new (flag.getD g.ignoreCase)) (g :: outer)
  | .closing :: _, _, [] => none
  | .closing :: ts, g, parent :: outer => readTokens? ts (parent.add g.close) outer

/-- The expression written in a source, if the source is well formed. -/
def Expr.ofSource? (source : String) : Option Expr := do
  let cs := source.toList
  readTokens? (← tokens? cs.length cs) (.new false) []

/-- Compiles a source, if it is well formed. -/
def ofSource? (source : String) : Option Regex :=
  (Expr.ofSource? source).map fun e => ⟨source, e.search⟩

example : (ofSource? "^a(b|c)*$").map (·.isMatch "abcb") = some true := by decide +kernel

example : (ofSource? "a|*").isNone = true := by decide +kernel

end PatternDispatch.Script.Regex
