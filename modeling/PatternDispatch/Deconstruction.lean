import Std.Data.HashMap
import PatternDispatch.Bindings
import PatternDispatch.Host

/-! Answers to requests for sequences and mappings, kept for the length of one dispatch so that a
value is asked once. Values without an identity are asked each time, and failures are not kept. -/
namespace PatternDispatch

/-- Which requests share an answer of one value. -/
inductive KeyScope where
  | anyRequest
  /-- The requested keys as a set; `none` stands for all keys. -/
  | keySet (keys : Option (List Name))
  deriving DecidableEq, Hashable

/-- Inserts into a strictly increasing list of names. -/
def insertName (n : Name) : List Name → List Name
  | [] => [n]
  | m :: ms =>
    match n.cmp m with
    | .lt => n :: m :: ms
    | .eq => m :: ms
    | .gt => m :: insertName n ms

/-- A list of names as a set: increasing, each once. -/
def nameSet (ns : List Name) : List Name := ns.foldr insertName []

/-- The scope in which an answer is kept; `none` when it is not kept. -/
def KeysCachePolicy.scope? (requested : Option (List Name)) : KeysCachePolicy → Option KeyScope
  | .perValue => some .anyRequest
  | .perKeySet => some (.keySet (requested.map nameSet))
  | .uncached => none

structure MappingKey where
  id : Identity
  scope : KeyScope
  deriving DecidableEq, Hashable

/-- The answers kept so far, and counts of the requests. -/
structure Cache where
  sequences : Std.HashMap Identity (Deconstructed (List Value))
  mappings : Std.HashMap MappingKey (Deconstructed Mapping)
  /-- Requests for sequences that reached the host. -/
  sequenceCalls : Nat
  /-- Requests for mappings that reached the host. -/
  mappingCalls : Nat
  /-- Requests answered from the cache. -/
  hits : Nat

namespace Cache

def empty : Cache := ⟨∅, ∅, 0, 0, 0⟩

instance : Inhabited Cache := ⟨empty⟩

/-- Requests that reached the host. -/
def hookCalls (c : Cache) : Nat := c.sequenceCalls + c.mappingCalls

def keepSequence (c : Cache) (id : Identity) (answer : Deconstructed (List Value)) : Cache :=
  { c with sequences := c.sequences.insert id answer }

def keepMapping (c : Cache) (key : MappingKey) (answer : Deconstructed Mapping) : Cache :=
  { c with mappings := c.mappings.insert key answer }

def countSequence (c : Cache) : Cache := { c with sequenceCalls := c.sequenceCalls + 1 }

def countMapping (c : Cache) : Cache := { c with mappingCalls := c.mappingCalls + 1 }

def countHit (c : Cache) : Cache := { c with hits := c.hits + 1 }

end Cache

/-- The state of one attempt to match. -/
structure MatchState (σ : Type) where
  session : Session σ
  bindings : Bindings
  cache : Cache

/-- A step of an attempt to match. -/
abbrev MatchM (σ α : Type) := ExceptT EvalError (StateM (MatchState σ)) α

namespace MatchM

variable {σ α : Type}

def ofEval (m : EvalM σ α) : MatchM σ α := fun s =>
  let (r, session) := m s.session
  (r, { s with session })

def ofHost (m : HostM σ α) : MatchM σ α := ofEval (EvalM.ofHost m)

def getBindings : MatchM σ Bindings := fun s => (.ok s.bindings, s)

def modifyBindings (f : Bindings → Bindings) : MatchM σ Unit := fun s =>
  (.ok (), { s with bindings := f s.bindings })

def getCache : MatchM σ Cache := fun s => (.ok s.cache, s)

def modifyCache (f : Cache → Cache) : MatchM σ Unit := fun s =>
  (.ok (), { s with cache := f s.cache })

end MatchM

namespace Engine

variable {σ : Type} (e : Engine σ)

def observe (event : Event) : EvalM σ Unit := .ofHost (ExceptT.lift (e.host.observe event))

/-- The value as a sequence. -/
def sequence (v : Value) : MatchM σ (Deconstructed (List Value)) := do
  match v.identity? with
  | none =>
    .modifyCache .countSequence
    .ofHost (e.host.deconstruct v)
  | some id =>
    match (← .getCache).sequences[id]? with
    | some answer =>
      .modifyCache .countHit
      .ofEval (e.observe .sequenceFromCache)
      return answer
    | none =>
      .modifyCache .countSequence
      let answer ← .ofHost (e.host.deconstruct v)
      .modifyCache (·.keepSequence id answer)
      return answer

/-- Asks the host for a mapping. -/
def askMapping (v : Value) (requested : Option (List Name)) : MatchM σ (Deconstructed Mapping) := do
  .modifyCache .countMapping
  .ofHost (e.host.deconstructKeys v requested)

/-- A mapping that is kept under a key. -/
def keptMapping (key : MappingKey) (v : Value) (requested : Option (List Name)) :
    MatchM σ (Deconstructed Mapping) := do
  match (← .getCache).mappings[key]? with
  | some answer =>
    .modifyCache .countHit
    .ofEval (e.observe .mappingFromCache)
    return answer
  | none =>
    let answer ← e.askMapping v requested
    .modifyCache (·.keepMapping key answer)
    return answer

/-- The first text among the keys of a mapping that spells a key of a pattern. -/
def misspelledKey? (p : HashPattern) (pairs : Pairs) : Option String :=
  pairs.findSome? fun entry =>
    entry.1.str?.filter fun text => p.keys.any fun n => e.names.text n == text

/-- Refuses an answer that spells a requested key as a text. A hash is its own answer and is never
refused. -/
def checkKeys (p : HashPattern) (v : Value) (answer : Deconstructed Mapping) :
    Deconstructed Mapping :=
  match answer with
  | .supported m =>
    let own := match v with
      | .hash id _ => id == m.id
      | _ => false
    if e.config.strictKeyShape && !own then
      match e.misspelledKey? p m.pairs with
      | some key => .wrongShape (.nonSymbolKey key)
      | none => answer
    else answer
  | _ => answer

/-- The value as a mapping, for a pattern. -/
def mapping (p : HashPattern) (v : Value) : MatchM σ (Deconstructed Mapping) := do
  let requested := p.requestedKeys
  let answer ←
    match v.identity?, e.config.keysCache.scope? requested with
    | some id, some scope => e.keptMapping ⟨id, scope⟩ v requested
    | _, _ => e.askMapping v requested
  return e.checkKeys p v answer

end Engine

end PatternDispatch
