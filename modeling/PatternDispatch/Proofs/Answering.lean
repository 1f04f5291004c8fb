import PatternDispatch.Dispatch
import PatternDispatch.Proofs.Dialogue
import PatternDispatch.Proofs.KeptAnswers

/-! Two ways to answer the questions of a dispatch: by asking the host every time, and by keeping
the answers to deconstruction as a dispatch does. -/
namespace PatternDispatch

/-- What outlives an attempt to match: variables, host and kept answers. -/
structure Standing (σ : Type) where
  session : Session σ
  cache : Cache

namespace Standing

variable {σ α : Type}

def withBindings (t : Standing σ) (b : Bindings) : MatchState σ := ⟨t.session, b, t.cache⟩

/-- A step that leaves the kept answers alone. -/
def ofEval (m : EvalM σ α) : HostM (Standing σ) α := fun t =>
  let (r, session) := m t.session
  (r, { t with session })

end Standing

def MatchState.standing {σ : Type} (s : MatchState σ) : Standing σ := ⟨s.session, s.cache⟩

/-- A step of an attempt that has bound nothing. -/
def Standing.ofMatch {σ α : Type} (m : MatchM σ α) : HostM (Standing σ) α := fun t =>
  let (r, s) := m (t.withBindings .empty)
  (r, s.standing)

namespace Engine

open EvalM

variable {σ : Type} (e : Engine σ)

/-- The engine on a host that is deaf to reports. They are meant for an onlooker: what a dispatch
asks of its host does not depend on them. -/
def silent : Engine σ := { e with host := e.host.silent }

/-- Every question goes to the host or to the variables. -/
def direct : Answerer (Session σ)
  | .eval x => e.host.eval x
  | .evalWith bs x => inScope bs.scopeIn (e.host.eval x)
  | .visible n => fun s => (.ok (s.env.lookup? n), s)
  | .external r => ofHost (e.host.resolveExternal r)
  | .caseEq p v => ofHost (e.host.caseEq p v)
  | .sequence v => ofHost (e.host.deconstruct v)
  | .mapping p v => do
    let answer ← ofHost (e.host.deconstructKeys v p.requestedKeys)
    return e.checkKeys p v answer
  | .fresh => ofHost (ExceptT.lift e.host.fresh)
  | .declare ns => modifyEnv fun env => ns.foldl Environment.declare env
  | .store (.localVar n) v => modifyEnv (·.commit n v)
  | .store (.external r) v => ofHost (e.host.assignExternal r v)
  | .render v => ofHost (ExceptT.lift (e.host.render v))
  | .report event => e.observe event

/-- Sequences and mappings may come from the answers kept so far. -/
def cached : Answerer (Standing σ)
  | .sequence v => Standing.ofMatch (e.sequence v)
  | .mapping p v => Standing.ofMatch (e.mapping p v)
  | q => Standing.ofEval (e.direct q)

/-- Only what opens a value is kept. -/
theorem cached_of_plain {q : Question} (plain : q.opens = false) :
    e.cached q = Standing.ofEval (e.direct q) := by
  cases q with
  | sequence v => cases plain
  | mapping p v => cases plain
  | _ => rfl

variable {v : Value} {p : HashPattern} {t : Standing σ}

theorem cached_sequence_kept {a : Deconstructed (List Value)}
    (kept : t.cache.sequence? v = some a) :
    e.cached (.sequence v) t =
      (.ok a, ⟨e.reported .sequenceFromCache t.session, t.cache.countHit⟩) := by
  simp only [cached, Standing.ofMatch, e.sequence_kept (s := t.withBindings .empty) kept]
  rfl

theorem cached_sequence_asked (missing : t.cache.sequence? v = none) :
    e.cached (.sequence v) t =
      let (r, world) := e.host.deconstruct v t.session.world
      (r, ⟨t.session.withWorld world, t.cache.learnSequence v r⟩) := by
  simp only [cached, Standing.ofMatch, e.sequence_asked (s := t.withBindings .empty) missing]
  rfl

theorem cached_mapping_kept {a : Deconstructed Mapping}
    (kept : t.cache.mapping? (e.mappingKey? v p.requestedKeys) = some a) :
    e.cached (.mapping p v) t =
      (.ok (e.checkKeys p v a),
        ⟨e.reported .mappingFromCache t.session, t.cache.countHit⟩) := by
  simp only [cached, Standing.ofMatch, e.mapping_kept (s := t.withBindings .empty) kept]
  rfl

theorem cached_mapping_asked (missing : t.cache.mapping? (e.mappingKey? v p.requestedKeys) = none) :
    e.cached (.mapping p v) t =
      let (r, world) := e.host.deconstructKeys v p.requestedKeys t.session.world
      (r.map (e.checkKeys p v),
        ⟨t.session.withWorld world, t.cache.learnMapping (e.mappingKey? v p.requestedKeys) r⟩) := by
  simp only [cached, Standing.ofMatch, e.mapping_asked (s := t.withBindings .empty) missing]
  rfl

end Engine

end PatternDispatch
