import PatternDispatch.Value

/-! Variables: scopes, and the stack of scopes around a dispatch. Besides plain assignment, pattern
variables need two operations: to make a name exist without touching a visible value, and to assign
where the name is visible or else define it. -/
namespace PatternDispatch

/-- The variables of one scope, each once. -/
structure Scope where
  vars : List (Name × Value)

namespace Scope

def empty : Scope := ⟨[]⟩

def get? (s : Scope) (n : Name) : Option Value := s.vars.lookup n

def has (s : Scope) (n : Name) : Bool := (s.get? n).isSome

/-- Sets one entry of a list of variables, at the end if it is new. -/
def setVar (n : Name) (v : Value) : List (Name × Value) → List (Name × Value)
  | [] => [(n, v)]
  | (m, w) :: vars => if n == m then (n, v) :: vars else (m, w) :: setVar n v vars

/-- Sets a variable, whether or not the scope has it. -/
def define (s : Scope) (n : Name) (v : Value) : Scope := ⟨setVar n v s.vars⟩

theorem lookup_setVar (n m : Name) (v : Value) (vars : List (Name × Value)) :
    (setVar n v vars).lookup m = if m = n then some v else vars.lookup m := by
  induction vars with
  | nil =>
    by_cases h : m = n
    · simp [setVar, h]
    · have hb : (m == n) = false := beq_eq_false_iff_ne.2 h
      simp [setVar, List.lookup_cons, h, hb]
  | cons p vars ih =>
    obtain ⟨k, w⟩ := p
    by_cases hk : n = k
    · subst hk
      by_cases h : m = n
      · simp [setVar, h]
      · have hb : (m == n) = false := beq_eq_false_iff_ne.2 h
        simp [setVar, List.lookup_cons, h, hb]
    · have hb : (n == k) = false := beq_eq_false_iff_ne.2 hk
      by_cases h : m = n
      · subst h
        simp [setVar, List.lookup_cons, hb, ih]
      · simp [setVar, List.lookup_cons, hb, ih, h]

theorem get?_define (s : Scope) (n m : Name) (v : Value) :
    (s.define n v).get? m = if m = n then some v else s.get? m :=
  lookup_setVar n m v s.vars

end Scope

/-- A stack of scopes that is never empty: the current scope, and those around it from the inside
out. -/
structure Environment where
  current : Scope
  outer : List Scope

namespace Environment

/-- One empty scope. -/
def empty : Environment := ⟨.empty, []⟩

instance : Inhabited Environment := ⟨empty⟩

/-- All scopes, from the inside out. -/
def scopes (env : Environment) : List Scope := env.current :: env.outer

def depth (env : Environment) : Nat := env.outer.length + 1

def push (env : Environment) : Environment := ⟨.empty, env.scopes⟩

/-- Leaves the current scope. The outermost one is never left. -/
def pop (env : Environment) : Environment :=
  match env.outer with
  | [] => env
  | s :: outer => ⟨s, outer⟩

/-- Sets a variable of the current scope. -/
def define (env : Environment) (n : Name) (v : Value) : Environment :=
  { env with current := env.current.define n v }

/-- The value in the innermost scope that has the name. -/
def lookup? (env : Environment) (n : Name) : Option Value :=
  env.scopes.findSome? (·.get? n)

def isDefined (env : Environment) (n : Name) : Bool := (env.lookup? n).isSome

/-- Sets a variable in the innermost of some scopes that has it; `none` when none has. -/
def assignIn? (n : Name) (v : Value) : List Scope → Option (List Scope)
  | [] => none
  | s :: outer =>
    if s.has n then some (s.define n v :: outer) else (assignIn? n v outer).map (s :: ·)

/-- Assigns to the innermost scope that has the name; `none` when none has. -/
def assign? (env : Environment) (n : Name) (v : Value) : Option Environment :=
  if env.current.has n then some (env.define n v)
  else (assignIn? n v env.outer).map fun outer => { env with outer }

/-- Assigns where the name is visible. Where it is not, nothing changes and the value comes back. -/
def assign (env : Environment) (n : Name) (v : Value) : Option Value × Environment :=
  match env.assign? n v with
  | some env' => (none, env')
  | none => (some v, env)

/-- Makes a name exist. A visible variable keeps its value; otherwise the name is defined as `nil`
in the current scope. -/
def declare (env : Environment) (n : Name) : Environment :=
  if env.isDefined n then env else env.define n .nil

/-- Assigns if the name is visible, otherwise defines it in the current scope. -/
def commit (env : Environment) (n : Name) (v : Value) : Environment :=
  (env.assign? n v).getD (env.define n v)

/-- Adds variables that are not yet among those captured. -/
def addVisible (captured : List (Name × Value)) (s : Scope) : List (Name × Value) :=
  captured ++ s.vars.filter fun p => (captured.lookup p.1).isNone

/-- Every visible variable, with the value of the innermost scope that has it. -/
def capture (env : Environment) : List (Name × Value) := env.scopes.foldl addVisible []

@[simp]
theorem depth_push (env : Environment) : env.push.depth = env.depth + 1 := rfl

@[simp]
theorem pop_push (env : Environment) : env.push.pop = env := rfl

@[simp]
theorem depth_define (env : Environment) (n : Name) (v : Value) :
    (env.define n v).depth = env.depth := rfl

/-- There is always a scope left. -/
theorem depth_pos (env : Environment) : 0 < env.depth := Nat.succ_pos _

theorem depth_pop (env : Environment) : env.pop.depth = max 1 (env.depth - 1) := by
  obtain ⟨current, outer⟩ := env
  cases outer with
  | nil => rfl
  | cons s outer => simp [pop, depth]

end Environment

end PatternDispatch
