import PatternDispatch.Text.Quoted
import PatternDispatch.Value.Capability

/-! What can go wrong in a dispatch. That a pattern does not match is no error; that nothing matched
is one, and the only one after which every alternative has been tried. -/
namespace PatternDispatch

/-- The cause of an error. -/
inductive ErrorKind where
  /-- A deconstruction hook answered with the wrong kind of value. -/
  | typeError (message : String)
  /-- No pattern matched and no alternative was given. -/
  | noMatchingPattern (rendered : String)
  /-- A pinned variable is neither bound nor visible. -/
  | undefinedVariable (name : String)
  /-- The host failed. -/
  | host (message : String)
  | custom (message : String)
  deriving DecidableEq

namespace ErrorKind

def message : ErrorKind → String
  | .typeError m => m
  | .noMatchingPattern r => r
  | .undefinedVariable n => "undefined variable: " ++ n
  | .host m => m
  | .custom m => m

/-- Diagnostic codes; they do not change. -/
def code : ErrorKind → String
  | .custom _ => "E7000"
  | .typeError _ => "E7001"
  | .noMatchingPattern _ => "E7002"
  | .undefinedVariable _ => "E7003"
  | .host _ => "E7004"

/-- The name of the exception that the host language reports. -/
def name : ErrorKind → String
  | .typeError _ => "TypeError"
  | .noMatchingPattern _ => "NoMatchingPatternError"
  | .undefinedVariable _ => "NameError"
  | .host _ => "RuntimeError"
  | .custom _ => "RuntimeError"

end ErrorKind

/-- An error, with its text and with notes on its circumstances, the outermost last. The errors made
here have the text of their kind; a host may choose another. -/
structure EvalError where
  kind : ErrorKind
  message : String
  notes : List String
  deriving DecidableEq

/-- How an error relates to the dispatch it ended. -/
inductive ErrorClass where
  /-- The dispatch ran to its end and found nothing. -/
  | recoverable
  /-- The dispatch was cut short. -/
  | fatal
  deriving DecidableEq

namespace EvalError

def ofKind (k : ErrorKind) : EvalError := ⟨k, k.message, []⟩

def typeError (m : String) : EvalError := ofKind (.typeError m)

def noMatchingPattern (rendered : String) : EvalError := ofKind (.noMatchingPattern rendered)

def undefinedVariable (name : String) : EvalError := ofKind (.undefinedVariable name)

def host (m : String) : EvalError := ofKind (.host m)

def custom (m : String) : EvalError := ofKind (.custom m)

def withNote (e : EvalError) (note : String) : EvalError := { e with notes := e.notes ++ [note] }

/-- The message with the name of the exception. -/
def display (e : EvalError) : String := e.message ++ " (" ++ e.kind.name ++ ")"

def isNoMatch (e : EvalError) : Bool :=
  match e.kind with
  | .noMatchingPattern _ => true
  | _ => false

def isTypeError (e : EvalError) : Bool :=
  match e.kind with
  | .typeError _ => true
  | _ => false

def classify (e : EvalError) : ErrorClass := if e.isNoMatch then .recoverable else .fatal

@[simp]
theorem message_ofKind (k : ErrorKind) : (ofKind k).message = k.message := rfl

@[simp]
theorem kind_ofKind (k : ErrorKind) : (ofKind k).kind = k := rfl

@[simp]
theorem message_withNote (e : EvalError) (note : String) :
    (e.withNote note).message = e.message := rfl

@[simp]
theorem kind_withNote (e : EvalError) (note : String) : (e.withNote note).kind = e.kind := rfl

end EvalError

/-- The error raised for an answer of the wrong shape. -/
def ShapeError.toError (e : ShapeError) : EvalError :=
  let hook := e.capability.hookName
  match e with
  | .notArray got =>
    (EvalError.typeError (hook ++ " must return Array")).withNote (hook ++ " returned " ++ got)
  | .notHash got =>
    (EvalError.typeError (hook ++ " must return Hash")).withNote (hook ++ " returned " ++ got)
  | .nonSymbolKey key =>
    (EvalError.typeError
      ("wrong argument type String (expected Symbol) for key " ++ Text.quote .debug key)).withNote
      ("key returned by " ++ hook)

/-- It has the text of its kind. -/
theorem ShapeError.message_toError (e : ShapeError) : e.toError.message = e.toError.kind.message := by
  cases e <;> simp [toError, EvalError.typeError]

/-- What matching makes of an answer: go on with the payload, give up, or fail. -/
def Deconstructed.fold {α : Type} : Deconstructed α → Except EvalError (Option α)
  | .supported a => .ok (some a)
  | .unsupported => .ok none
  | .wrongShape e => .error e.toError

end PatternDispatch
