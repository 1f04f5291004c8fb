import PatternDispatch.Binary64.Decimal
import PatternDispatch.Text.Quoted
import PatternDispatch.Value

/-! Two texts of a value. The inspected text is what error messages show; the debug text names each
constructor and shows names by number. -/
namespace PatternDispatch.Value
open Text

def commaSeparated (texts : List String) : String := ", ".intercalate texts

mutual

/-- The text of a value in error messages. -/
def inspect (names : Interner) : Value → String
  | .nil => "nil"
  | .bool b => if b then "true" else "false"
  | .int n => toString n.toInt
  | .float x => x.write .inspect
  | .symbol n => ":" ++ names.text n
  | .range a b exclusive =>
    inspectBound names a ++ (if exclusive then "..." else "..") ++ inspectBound names b
  | .classRef c => c.text names
  | .str s => quote .inspect s
  | .array _ items => "[" ++ commaSeparated (inspectItems names items) ++ "]"
  | .hash _ pairs => "\x7b" ++ commaSeparated (inspectPairs names pairs) ++ "\x7d"
  | .regex r => "/" ++ r.source ++ "/"
  | .proc _ => "#<Proc>"
  | .object _ className _ => "#<" ++ names.text className ++ ">"

/-- An open bound shows nothing. -/
def inspectBound (names : Interner) : Option Value → String
  | none => ""
  | some v => inspect names v

def inspectItems (names : Interner) : List Value → List String
  | [] => []
  | v :: vs => inspect names v :: inspectItems names vs

/-- A symbol key stands before a colon, any other key before an arrow. -/
def inspectPairs (names : Interner) : List (Value × Value) → List String
  | [] => []
  | (.symbol n, v) :: ps =>
    (names.text n ++ ": " ++ inspect names v) :: inspectPairs names ps
  | (k, v) :: ps =>
    (inspect names k ++ " => " ++ inspect names v) :: inspectPairs names ps

end

/-- The debug text of a class. -/
def debugClass : ClassRef → String
  | .builtin c => "Builtin(" ++ c.name ++ ")"
  | .user n => "User(" ++ n.debug ++ ")"

mutual

/-- The text of a value that names its constructors. -/
def debug : Value → String
  | .nil => "Nil"
  | .bool b => if b then "Bool(true)" else "Bool(false)"
  | .int n => "Int(" ++ toString n.toInt ++ ")"
  | .float x => "Float(" ++ x.write .debug ++ ")"
  | .symbol n => "Symbol(" ++ n.debug ++ ")"
  | .range a b exclusive =>
    "Range(RangeValue \x7b start: " ++ debugBound a ++ ", end: " ++ debugBound b ++
      ", exclusive: " ++ (if exclusive then "true" else "false") ++ " \x7d)"
  | .classRef c => "Class(" ++ debugClass c ++ ")"
  | .str s => "Str(" ++ quote .debug s ++ ")"
  | .array _ items => "Array([" ++ commaSeparated (debugItems items) ++ "])"
  | .hash _ pairs =>
    "Hash(HashValue \x7b entries: [" ++ commaSeparated (debugPairs pairs) ++ "] \x7d)"
  | .regex r => "Regex(/" ++ r.source ++ "/)"
  | .proc _ => "Proc"
  | .object _ className _ => "Object(" ++ className.debug ++ ")"

def debugBound : Option Value → String
  | none => "None"
  | some v => "Some(" ++ debug v ++ ")"

def debugItems : List Value → List String
  | [] => []
  | v :: vs => debug v :: debugItems vs

def debugPairs : List (Value × Value) → List String
  | [] => []
  | (k, v) :: ps => ("(" ++ debug k ++ ", " ++ debug v ++ ")") :: debugPairs ps

end

end PatternDispatch.Value
