import PatternDispatch.Proofs.ClosedObjects

/-! Objects that stand in for a hash, matched by any number of hash patterns one after another. The
patterns share what is kept of the object's answers, and each of them asks for its own keys. A
pattern that is not closed looks at nothing but what it has asked for, so it makes of the object
what it makes of the hash: it comes to the same end with the same bindings, and asks the host the
same questions on the way. -/
namespace PatternDispatch

open Dialogue

/-- How a match ended, with the bindings that it left. -/
def MatchState.outcome {σ : Type} (r : Except EvalError Bool) (s : MatchState σ) : MatchOutcome :=
  match r with
  | .ok true => .matched s.bindings
  | .ok false => .unmatched
  | .error error => .failed error

/-- A hash pattern with what it finds when its turn comes: the variables, and what is bound. -/
structure HashMatch where
  pattern : HashPattern
  env : Environment
  bound : Bindings

/-- Matches a value several times over, with one store of kept answers. Answers how each match ended
and which variables it left, with the state of the host and the kept answers after all of them. -/
def Engine.matchHashes {σ : Type} (e : Engine σ) (v : Value) :
    List HashMatch → σ × Cache → List (MatchOutcome × Environment) × (σ × Cache)
  | [], kept => ([], kept)
  | m :: ms, (world, cache) =>
    let (r, s) := e.matchHash m.pattern v ⟨⟨m.env, world⟩, m.bound, cache⟩
    let (ends, kept) := e.matchHashes v ms (s.session.world, s.cache)
    ((s.outcome r, s.session.env) :: ends, kept)

/-- Whether a call is anything but a request for the keys of the object or the hash. -/
def StandIn.isElsewhere (d : StandIn) : Call → Bool
  | .deconstructKeys v _ _ => v.identity? != some d.object && v.identity? != some d.hash
  | _ => true

/-- What can be seen of a recording host: the same as of the host inside, and the record. -/
def Recorded.through {σ ν : Type} (view : σ → ν) (s : Recorded σ) : ν × List Call :=
  (view s.world, s.calls)

namespace HostM

variable {σ ν α : Type} {view : σ → ν} {m : HostM σ α}

/-- A record shows nothing that the step itself does not show. -/
theorem Sees.step (h : Sees view m) (keep : Call → Bool) (call : Except EvalError α → Call) :
    Sees (Recorded.through view) (Recorded.step keep call m) := by
  intro s s' same
  obtain ⟨world, calls⟩ := Prod.mk.inj same
  obtain ⟨result, after⟩ := h s.world s'.world world
  have noted : (s.note keep (call (m s.world).1) (m s.world).2).calls =
      (s'.note keep (call (m s'.world).1) (m s'.world).2).calls := by
    simp only [Recorded.note, result, calls]
  exact ⟨result, Prod.ext after noted⟩

theorem Sees.quiet {m : StateM σ α} (h : Sees view (ExceptT.lift m : HostM σ α)) :
    Sees (Recorded.through view) (ExceptT.lift (Recorded.quiet m) : HostM (Recorded σ) α) := by
  intro s s' same
  obtain ⟨world, calls⟩ := Prod.mk.inj same
  obtain ⟨result, after⟩ := h s.world s'.world world
  exact ⟨result, Prod.ext after calls⟩

end HostM

namespace Host

variable {σ ν : Type} {h : Host σ} {view : σ → ν} {object : Identity} {roots : Value → Prop}

/-- A recording host shows as much as the host inside. -/
theorem SeesOnly.recording (sees : h.SeesOnly view object) (keep : Call → Bool) :
    (h.recording keep).SeesOnly (Recorded.through view) object where
  eval x := by
    intro s s' same
    obtain ⟨env, shown⟩ := Prod.mk.inj same
    obtain ⟨world, calls⟩ := Prod.mk.inj shown
    obtain ⟨result, after⟩ :=
      sees.eval x ⟨s.env, s.world.world⟩ ⟨s'.env, s'.world.world⟩ (Prod.ext env world)
    obtain ⟨env', world'⟩ := Prod.mk.inj after
    have noted : (s.world.note keep (.eval x s.env (h.eval x ⟨s.env, s.world.world⟩).1)
          (h.eval x ⟨s.env, s.world.world⟩).2.world).calls =
        (s'.world.note keep (.eval x s'.env (h.eval x ⟨s'.env, s'.world.world⟩).1)
          (h.eval x ⟨s'.env, s'.world.world⟩).2.world).calls := by
      simp only [Recorded.note, calls]
      rw [result, env]
    exact ⟨result, Prod.ext env' (Prod.ext world' noted)⟩
  resolveExternal r := (sees.resolveExternal r).step keep _
  caseEq p v := (sees.caseEq p v).step keep _
  deconstruct v := (sees.deconstruct v).step keep _
  deconstructKeys other requested := (sees.deconstructKeys other requested).step keep _
  fresh := sees.fresh.quiet

/-- What can be met on a recording host can be met on the host inside. -/
theorem recording_meets {keep : Call → Bool} {v : Value} (met : (h.recording keep).Meets roots v) :
    h.Meets roots v := by
  induction met with
  | root hv => exact .root hv
  | @item v u items w w' inside answer hu ih =>
    have given : (h.deconstruct v w.world).1 = .ok (.supported items) := congrArg Prod.fst answer
    exact .item ih (Prod.ext given rfl) hu
  | @entry v requested m pair w w' inside answer hp ih =>
    have given : (h.deconstructKeys v requested w.world).1 = .ok (.supported m) :=
      congrArg Prod.fst answer
    exact .entry ih (Prod.ext given rfl) hp

end Host

/-- A record of what is asked elsewhere does not show how often the object is asked. -/
theorem StandIn.Honoured.recording {σ ν : Type} {d : StandIn} {h : Host σ} {view : σ → ν}
    (honoured : d.Honoured h view) :
    d.Honoured (h.recording d.isElsewhere) (Recorded.through view) where
  object requested s := by
    obtain ⟨i, answer, w', given, honours, unseen⟩ := honoured.object requested s.world
    have unrecorded : d.isElsewhere (.deconstructKeys d.value requested
        (.ok (.supported ⟨i, answer⟩))) = false := by
      simp [isElsewhere, value, Value.identity?]
    refine ⟨i, answer, ⟨w', s.calls⟩, ?_, honours, Prod.ext unseen rfl⟩
    simp only [Host.recording, Recorded.step, given, Recorded.note, unrecorded]
    rfl
  hash requested s := by
    have unrecorded : d.isElsewhere (.deconstructKeys d.original requested
        (.ok (.supported ⟨d.hash, d.pairs⟩))) = false := by
      simp [isElsewhere, original, Value.identity?]
    simp only [Host.recording, Recorded.step, honoured.hash requested s.world, Recorded.note,
      unrecorded]
    rfl
  alone v met := honoured.alone v (Host.recording_meets met)
  rest := honoured.rest.recording _

namespace Persistent

variable {names : Interner} {p : HashPattern} {pairs answer : Pairs}

/-- A pattern that is not closed makes the same of all pairs as of those that it asks for. -/
theorem matchPairs_honours (unclosed : p.rest ≠ .closed) (distinct : pairs.symbolKeys.Nodup)
    (h : pairs.Honours p.requestedKeys answer) (bs : Bound) :
    matchPairs names p answer bs = matchPairs names p pairs bs := by
  have asked : ∀ n ∈ p.keys, answer.getSymbol? n = pairs.getSymbol? n :=
    fun n hn => h.getSymbol? distinct (p.asks_for_key hn)
  rw [matchPairs, matchPairs, matchEntries_congr asked]
  refine congrArg (_ >>= ·) (funext fun found => ?_)
  cases found with
  | none => rfl
  | some bs' =>
    unfold matchRest
    cases rest : p.rest with
    | absent => rfl
    | ignored => rfl
    | closed => exact absurd rest unclosed
    | named t =>
      simp only [HashPattern.requestedKeys, rest] at h
      rw [show answer = pairs from h]

end Persistent

namespace Engine

variable {σ ν : Type} {e : Engine σ} {d : StandIn} {view : σ → ν}

/-- The first match is a dialogue, and the others go on from what it leaves. -/
theorem matchHashes_cons (e : Engine σ) (v : Value) (m : HashMatch) (ms : List HashMatch)
    (world : σ) (cache : Cache) :
    e.matchHashes v (m :: ms) (world, cache) =
      let (r, t) := run e.cached (Persistent.matchHash e.names m.pattern v m.bound.toList)
        ⟨⟨m.env, world⟩, cache⟩
      let (ends, kept) := e.matchHashes v ms (t.session.world, t.cache)
      ((.ofResult r, t.session.env) :: ends, kept) := by
  have agrees := e.matchNode_refines (.hash m.pattern) v ⟨⟨m.env, world⟩, m.bound, cache⟩
  simp only [matchNode, Persistent.matchNode] at agrees
  change Agrees _ _ (run e.cached (Persistent.matchHash e.names m.pattern v m.bound.toList)
    ⟨⟨m.env, world⟩, cache⟩) at agrees
  rw [matchHashes]
  generalize e.matchHash m.pattern v ⟨⟨m.env, world⟩, m.bound, cache⟩ = x,
    run e.cached (Persistent.matchHash e.names m.pattern v m.bound.toList) ⟨⟨m.env, world⟩, cache⟩
      = y at agrees
  cases agrees with
  | matched s grown => simp [MatchState.outcome, MatchOutcome.ofResult, MatchState.standing]
  | unmatched s grown => rfl
  | failed error s => rfl

/-- Keeping a record changes nothing else. -/
theorem matchHashes_forget (keep : Call → Bool) (e : Engine σ) (v : Value) (ms : List HashMatch)
    (world : Recorded σ) (cache : Cache) :
    e.matchHashes v ms (world.world, cache) =
      let (ends, world', cache') := (e.recording keep).matchHashes v ms (world, cache)
      (ends, world'.world, cache') := by
  induction ms generalizing world cache with
  | nil => rfl
  | cons m ms ih =>
    have forgotten := e.run_forget keep (Persistent.matchHash e.names m.pattern v m.bound.toList)
      ⟨⟨m.env, world⟩, cache⟩
    change run e.cached _ ⟨⟨m.env, world.world⟩, cache⟩ = _ at forgotten
    rw [matchHashes_cons, matchHashes_cons, forgotten]
    exact congrArg (fun x => (_ :: x.1, x.2)) (ih _ _)

theorem Together.withVariables {t t' : Standing σ} (h : e.Together view d t t')
    (env : Environment) :
    e.Together view d ⟨⟨env, t.session.world⟩, t.cache⟩ ⟨⟨env, t'.session.world⟩, t'.cache⟩ where
  alongside := {
    session := Prod.ext rfl (Prod.mk.inj h.alongside.session).2
    sequences := h.alongside.sequences
    mappings := h.alongside.mappings }
  left := h.left
  right := h.right

/-- Match by match, the object and the hash stay together. -/
theorem matchHashes_together (honoured : d.Honoured e.host view)
    (exact : e.config.keysCache ≠ .perValue) {ms : List HashMatch}
    (unclosed : ∀ m ∈ ms, m.pattern.rest ≠ .closed) {t t' : Standing σ}
    (h : e.Together view d t t') :
    let onObject := e.silent.matchHashes d.value ms (t.session.world, t.cache)
    let onHash := e.silent.matchHashes d.original ms (t'.session.world, t'.cache)
    onObject.1 = onHash.1 ∧ view onObject.2.1 = view onHash.2.1 := by
  induction ms generalizing t t' with
  | nil => exact ⟨rfl, (Prod.mk.inj h.alongside.session).2⟩
  | cons m ms ih =>
    obtain ⟨here, later⟩ := List.forall_mem_cons.1 unclosed
    obtain ⟨result, together⟩ := matchHash_together honoured m.pattern exact
      (fun _ honours => Persistent.matchPairs_honours here d.distinct honours m.bound.toList)
      (h.withVariables m.env)
    obtain ⟨ends, seen⟩ := ih later together
    have env := (Prod.mk.inj together.alongside.session).1
    dsimp only
    rw [matchHashes_cons, matchHashes_cons]
    refine ⟨List.cons_eq_cons.2 ⟨Prod.ext ?_ env, ends⟩, seen⟩
    exact congrArg MatchOutcome.ofResult result

/-- An object that honours requests for its keys is matched as the hash that it stands in for, by
any number of patterns without a closed rest, in any order: every match comes to the same outcome
with the same bindings and leaves the same variables, and the host gets the same calls, apart from
the requests to the object and the hash themselves. The record of the calls changes nothing else. -/
theorem object_matches_like_hash (e : Engine σ) (exact : e.config.keysCache ≠ .perValue)
    (methods : Methods σ) (default : ∀ v requested, e.host.deconstructKeys v requested =
      ExceptT.lift (v.deconstructKeys methods requested))
    (d : StandIn) (view : σ → ν) (honours : d.HonouredBy methods view) (alone : d.Alone e.host)
    (rest : e.host.SeesOnly view d.object) (ms : List HashMatch)
    (unclosed : ∀ m ∈ ms, m.pattern.rest ≠ .closed) (w : σ) :
    let matched := fun v =>
      (e.silent.recording d.isElsewhere).matchHashes v ms (⟨w, []⟩, .empty)
    (matched d.value).1 = (matched d.original).1 ∧
    (matched d.value).2.1.calls = (matched d.original).2.1.calls ∧
    view (matched d.value).2.1.world = view (matched d.original).2.1.world ∧
    ∀ v, e.silent.matchHashes v ms (w, .empty) =
      ((matched v).1, (matched v).2.1.world, (matched v).2.2) := by
  intro matched
  have honoured := (StandIn.honoured_of_hook default honours alone rest).recording
  have start : (e.recording d.isElsewhere).Together (Recorded.through view) d
      ⟨⟨.empty, ⟨w, []⟩⟩, .empty⟩ ⟨⟨.empty, ⟨w, []⟩⟩, .empty⟩ :=
    ⟨.refl _, genuine_empty, genuine_empty⟩
  obtain ⟨ends, seen⟩ :=
    matchHashes_together (e := e.recording d.isElsewhere) honoured exact unclosed start
  obtain ⟨world, calls⟩ := Prod.mk.inj seen
  exact ⟨ends, calls, world, fun v => e.silent.matchHashes_forget _ v ms ⟨w, []⟩ .empty⟩

end Engine

/-- Three patterns, of which the last one wants all pairs that it does not name. The first two ask
the object for the same keys. -/
theorem object_matches_like_hash_sample :
    let e : Engine Nat := ⟨StandIn.sampleHost, .new, ⟨.perKeySet, true⟩⟩
    let m : HashPattern → HashMatch := fun p => ⟨p, .empty, .empty⟩
    let ms := [m ⟨[(⟨1⟩, .binding (.localVar ⟨3⟩)), (⟨2⟩, .wildcard)], .absent⟩,
      m ⟨[(⟨2⟩, .literal .nil), (⟨1⟩, .wildcard)], .ignored⟩,
      m ⟨[(⟨1⟩, .wildcard)], .named (.localVar ⟨4⟩)⟩]
    e.config.keysCache ≠ .perValue ∧ (∀ m ∈ ms, m.pattern.rest ≠ .closed) ∧
    (e.silent.matchHashes StandIn.sample.value ms (0, .empty)).1 =
      (e.silent.matchHashes StandIn.sample.original ms (0, .empty)).1 := by
  intro e m ms
  have exact : e.config.keysCache ≠ .perValue := nofun
  have unclosed : ∀ m ∈ ms, m.pattern.rest ≠ .closed := by simp [ms, m]
  obtain ⟨ends, -, -, unrecorded⟩ := e.object_matches_like_hash exact _ (fun _ _ => rfl)
    StandIn.sample id StandIn.sampleMethods_honours StandIn.sample_alone (.whole _ _) ms unclosed 0
  refine ⟨exact, unclosed, ?_⟩
  rw [unrecorded, unrecorded]
  dsimp only
  exact ends

end PatternDispatch
