import PatternDispatch.Deconstruction

/-! Matching a pattern against a value. All parts of a pattern share one list of bindings; a branch
that fails is rolled back, so alternatives and windows never see each other's bindings. Failures of
the host end the whole attempt. -/
namespace PatternDispatch

namespace MatchM

variable {σ : Type}

def bind (t : BindTarget) (v : Value) : MatchM σ Unit := modifyBindings (·.push t v)

/-- Runs an attempt, and takes back what it bound unless it succeeds. -/
def branch (attempt : MatchM σ Bool) : MatchM σ Bool := do
  let mark := (← getBindings).size
  if ← attempt then return true
  modifyBindings (·.rollback mark)
  return false

end MatchM

namespace Engine

variable {σ : Type} (e : Engine σ)

/-- The operand of a pin or a constant. What this attempt has bound comes first; an expression sees
the local bindings made so far. -/
def resolve : ValueRef → MatchM σ Value
  | .localVar n => do
    match (← .getBindings).get? (.localVar n) with
    | some v => return v
    | none =>
      match (← .ofEval .getEnv).lookup? n with
      | some v => return v
      | none => throw (.undefinedVariable (e.names.text n))
  | .external r => do
    match (← .getBindings).get? (.external r) with
    | some v => return v
    | none => .ofHost (e.host.resolveExternal r)
  | .expr x => do
    let b ← .getBindings
    .ofEval (.inScope b.scopeIn (e.host.eval x))
  | .inline v => return v

def caseEq (p v : Value) : MatchM σ Bool := .ofHost (e.host.caseEq p v)

def fresh : MatchM σ Identity := .ofHost (ExceptT.lift e.host.fresh)

/-- Binds a named splat to a new array. -/
def bindSplat (s : Splat) (items : List Value) : MatchM σ Unit := do
  match s with
  | .anonymous => return
  | .named t => .bind t (.array (← e.fresh) items)

/-- The items for a list pattern, unless the value is no sequence or has too few. -/
def itemsFor? (p : ListPattern) (v : Value) : MatchM σ (Option (List Value)) := do
  match ← (← e.sequence v).fold with
  | some items => return if items.length < p.minLen then none else some items
  | none => return none

/-- Tries windows of `width` items from left to right, `remaining` of them. -/
def tryWindows (before after : Splat) (width : Nat) (attempt : List Value → MatchM σ Bool)
    (items : List Value) : Nat → Nat → MatchM σ Bool
  | 0, _ => do
    .ofEval (e.observe (.noWindowMatched items.length width))
    return false
  | remaining + 1, start => do
    let found ← MatchM.branch do
      e.bindSplat before (items.take start)
      attempt ((items.drop start).take width)
    if found then
      .ofEval (e.observe (.windowMatched start width))
      e.bindSplat after (items.drop (start + width))
      return true
    tryWindows before after width attempt items remaining (start + 1)

/-- The pairs whose key is not a symbol among the entries of a pattern. -/
def otherPairs (keys : List Name) (pairs : Pairs) : Pairs :=
  pairs.filter fun entry => !entry.1.symbol?.any keys.contains

/-- What is left to do once all entries of a hash pattern have matched. -/
def matchRest (p : HashPattern) (pairs : Pairs) : MatchM σ Bool := do
  match p.rest with
  | .absent => return true
  | .ignored => return true
  | .closed => return pairs.length == p.entries.length
  | .named t =>
    let id ← e.fresh
    .bind t (.hash id (Pairs.ofList (otherPairs p.keys pairs)))
    return true

mutual

/-- Whether a value matches; on success the bindings are there as well. -/
def matchNode : Pattern → Value → MatchM σ Bool
  | .literal l, v => e.caseEq l v
  | .binding t, v => do
    .bind t v
    return true
  | .wildcard, _ => return true
  | .discard _, _ => return true
  | .pin r, v => do
    let operand ← e.resolve r
    e.caseEq operand v
  | .either branches, v => matchAny branches v
  | .capture inner t, v => do
    if ← matchNode inner v then
      .bind t v
      return true
    return false
  | .constant r inner, v => do
    let operand ← e.resolve r
    if ← e.caseEq operand v then matchInner inner v
    else return false
  | .list p, v => matchList p v
  | .hash p, v => matchHash p v

/-- The pattern inside a constant, if there is one. -/
def matchInner : Option Pattern → Value → MatchM σ Bool
  | none, _ => return true
  | some p, v => matchNode p v

/-- The first branch that matches. -/
def matchAny : List Pattern → Value → MatchM σ Bool
  | [], _ => return false
  | p :: ps, v => do
    if ← MatchM.branch (matchNode p v) then return true
    matchAny ps v

/-- Patterns and items one by one, up to the shorter list. -/
def matchEach : List Pattern → List Value → MatchM σ Bool
  | p :: ps, v :: vs => do
    if ← matchNode p v then matchEach ps vs
    else return false
  | _, _ => return true

def matchList : ListPattern → Value → MatchM σ Bool
  | ⟨leading, some ⟨before, elements, after⟩, rest, trailing, openEnd⟩, v => do
    let p : ListPattern := ⟨leading, some ⟨before, elements, after⟩, rest, trailing, openEnd⟩
    match ← e.itemsFor? p v with
    | none => return false
    | some items =>
      let width := elements.length
      e.tryWindows before after width (fun window => matchEach elements window) items
        (items.length - width + 1) 0
  | ⟨leading, none, some rest, trailing, openEnd⟩, v => do
    let p : ListPattern := ⟨leading, none, some rest, trailing, openEnd⟩
    match ← e.itemsFor? p v with
    | none => return false
    | some items =>
      let first := leading.length
      let last := items.length - trailing.length
      if ← matchEach leading (items.take first) then
        e.bindSplat rest ((items.take last).drop first)
        matchEach trailing (items.drop last)
      else return false
  | ⟨leading, none, none, trailing, openEnd⟩, v => do
    let p : ListPattern := ⟨leading, none, none, trailing, openEnd⟩
    match ← e.itemsFor? p v with
    | none => return false
    | some items =>
      if openEnd || items.length == leading.length then
        matchEach leading (items.take leading.length)
      else return false

def matchHash : HashPattern → Value → MatchM σ Bool
  | ⟨entries, rest⟩, v => do
    let p : HashPattern := ⟨entries, rest⟩
    match ← (← e.mapping p v).fold with
    | none => return false
    | some m =>
      if ← matchEntries entries m.pairs then e.matchRest p m.pairs
      else return false

/-- The entries of a hash pattern in their order, each against the value of its key. -/
def matchEntries : List (Name × Pattern) → Pairs → MatchM σ Bool
  | [], _ => return true
  | (n, p) :: es, pairs => do
    match pairs.getSymbol? n with
    | none => return false
    | some v =>
      if ← matchNode p v then matchEntries es pairs
      else return false

end

end Engine

/-- How an attempt to match ended. -/
inductive MatchOutcome where
  | matched (b : Bindings)
  | unmatched
  | failed (error : EvalError)

/-- One attempt to match, from no bindings, with the answers kept so far. -/
def Engine.attempt {σ : Type} (e : Engine σ) (p : Pattern) (v : Value) (cache : Cache) :
    StateM (Session σ) (MatchOutcome × Cache) := fun session =>
  let (r, s) := e.matchNode p v ⟨session, .empty, cache⟩
  let outcome : MatchOutcome := match r with
    | .ok true => .matched s.bindings
    | .ok false => .unmatched
    | .error error => .failed error
  ((outcome, s.cache), s.session)

/-- Matches a value that is already there, asking it anew. Nothing is committed. -/
def Engine.matchValue {σ : Type} (e : Engine σ) (p : Pattern) (v : Value) :
    StateM (Session σ) MatchOutcome := do
  return (← e.attempt p v .empty).1

end PatternDispatch
