import PatternDispatch.Deconstruction

/-! What a request for a sequence or a mapping does. Either an answer is there already, which is
given again and counted as a hit, or the host is asked; its answer is kept if the value has an
identity and the policy keeps answers. -/
namespace PatternDispatch

/-- Both are there, and they are the same. -/
def Shared {α : Type} (a b : Option α) : Prop := ∃ k, a = some k ∧ b = some k

theorem Shared.symm {α : Type} {a b : Option α} (h : Shared a b) : Shared b a := by
  obtain ⟨k, ha, hb⟩ := h
  exact ⟨k, hb, ha⟩

theorem Shared.trans {α : Type} {a b c : Option α} (h : Shared a b) (h' : Shared b c) :
    Shared a c := by
  obtain ⟨k, ha, hb⟩ := h
  obtain ⟨k', hb', hc⟩ := h'
  cases hb.symm.trans hb'
  exact ⟨k, ha, hc⟩

namespace Cache

/-- The sequence kept for a value. -/
def sequence? (c : Cache) (v : Value) : Option (Deconstructed (List Value)) :=
  v.identity?.bind fun id => c.sequences[id]?

/-- The mapping kept under a key. -/
def mapping? (c : Cache) (key : Option MappingKey) : Option (Deconstructed Mapping) :=
  key.bind fun key => c.mappings[key]?

/-- The answers kept after the host was asked for a sequence. -/
def learnSequence (c : Cache) (v : Value) (answer : Except EvalError (Deconstructed (List Value))) :
    Cache :=
  match v.identity?, answer with
  | some id, .ok a => c.countSequence.keepSequence id a
  | _, _ => c.countSequence

/-- The answers kept after the host was asked for a mapping. -/
def learnMapping (c : Cache) (key : Option MappingKey)
    (answer : Except EvalError (Deconstructed Mapping)) : Cache :=
  match key, answer with
  | some key, .ok a => c.countMapping.keepMapping key a
  | _, _ => c.countMapping

variable (c : Cache)

@[simp]
theorem sequence?_empty (v : Value) : empty.sequence? v = none := by
  simp [sequence?, empty]

@[simp]
theorem mapping?_empty (key : Option MappingKey) : empty.mapping? key = none := by
  simp [mapping?, empty]

@[simp]
theorem sequence?_learnMapping (key : Option MappingKey)
    (r : Except EvalError (Deconstructed Mapping)) (v : Value) :
    (c.learnMapping key r).sequence? v = c.sequence? v := by
  unfold learnMapping
  split <;> rfl

@[simp]
theorem mapping?_learnSequence (v : Value) (r : Except EvalError (Deconstructed (List Value)))
    (key : Option MappingKey) : (c.learnSequence v r).mapping? key = c.mapping? key := by
  unfold learnSequence
  split <;> rfl

theorem hookCalls_learnSequence (v : Value)
    (r : Except EvalError (Deconstructed (List Value))) :
    (c.learnSequence v r).hookCalls = c.hookCalls + 1 := by
  have counted : c.countSequence.hookCalls = c.hookCalls + 1 := Nat.succ_add _ _
  unfold learnSequence
  split
  · exact counted
  · exact counted

theorem hookCalls_learnMapping (key : Option MappingKey)
    (r : Except EvalError (Deconstructed Mapping)) :
    (c.learnMapping key r).hookCalls = c.hookCalls + 1 := by
  unfold learnMapping
  split <;> rfl

theorem hits_learnSequence (v : Value) (r : Except EvalError (Deconstructed (List Value))) :
    (c.learnSequence v r).hits = c.hits := by
  unfold learnSequence
  split <;> rfl

theorem hits_learnMapping (key : Option MappingKey)
    (r : Except EvalError (Deconstructed Mapping)) : (c.learnMapping key r).hits = c.hits := by
  unfold learnMapping
  split <;> rfl

variable {c}

/-- An answer serves its own value from now on, and all others are kept as they were. -/
theorem sequence?_learnSequence {v u : Value} {a : Deconstructed (List Value)}
    (r : Except EvalError (Deconstructed (List Value))) (missing : c.sequence? v = none) :
    (c.learnSequence v r).sequence? u = some a ↔
      c.sequence? u = some a ∨ Shared v.identity? u.identity? ∧ r = .ok a := by
  cases hv : v.identity? with
  | none =>
    have unchanged : (c.learnSequence v r).sequence? u = c.sequence? u := by
      simp only [learnSequence, hv]
      rfl
    simp [unchanged, Shared]
  | some id =>
    cases r with
    | error error =>
      have unchanged : (c.learnSequence v (.error error)).sequence? u = c.sequence? u := by
        simp only [learnSequence, hv]
        rfl
      simp [unchanged]
    | ok b =>
      have learnt : (c.learnSequence v (.ok b)).sequence? u =
          u.identity?.bind fun k => (c.sequences.insert id b)[k]? := by
        simp only [learnSequence, hv]
        rfl
      rw [learnt]
      cases hu : u.identity? with
      | none => simp [sequence?, hu, Shared]
      | some k =>
        by_cases same : id = k
        · subst same
          have absent : c.sequences[id]? = none := by simpa [sequence?, hv] using missing
          simp [sequence?, hu, Shared, absent]
        · simp [sequence?, hu, Shared, Std.HashMap.getElem?_insert, same, Ne.symm same]

theorem mapping?_learnMapping {key key' : Option MappingKey} {a : Deconstructed Mapping}
    (r : Except EvalError (Deconstructed Mapping)) (missing : c.mapping? key = none) :
    (c.learnMapping key r).mapping? key' = some a ↔
      c.mapping? key' = some a ∨ Shared key key' ∧ r = .ok a := by
  cases key with
  | none =>
    have unchanged : (c.learnMapping none r).mapping? key' = c.mapping? key' := by
      cases r <;> rfl
    simp [unchanged, Shared]
  | some k =>
    cases r with
    | error error =>
      have unchanged :
          (c.learnMapping (some k) (.error error)).mapping? key' = c.mapping? key' := rfl
      simp [unchanged]
    | ok b =>
      have learnt : (c.learnMapping (some k) (.ok b)).mapping? key' =
          key'.bind fun k' => (c.mappings.insert k b)[k']? := rfl
      rw [learnt]
      cases key' with
      | none => simp [mapping?, Shared]
      | some k' =>
        by_cases same : k = k'
        · subst same
          have absent : c.mappings[k]? = none := by simpa [mapping?] using missing
          simp [mapping?, Shared, absent]
        · simp [mapping?, Shared, Std.HashMap.getElem?_insert, same, Ne.symm same]

/-- A new answer does not touch those kept under other keys. -/
theorem mapping?_learnMapping_of_apart {key key' : Option MappingKey}
    (r : Except EvalError (Deconstructed Mapping))
    (missing : c.mapping? key = none) (apart : ¬ Shared key key') :
    (c.learnMapping key r).mapping? key' = c.mapping? key' := by
  ext a
  rw [mapping?_learnMapping r missing]
  simp [apart]

/-- What is kept alike stays alike when the same is learnt. -/
theorem mapping?_learnMapping_congr {c' : Cache} {key key' : Option MappingKey}
    (r : Except EvalError (Deconstructed Mapping))
    (missing : c.mapping? key = none) (missing' : c'.mapping? key = none)
    (same : c.mapping? key' = c'.mapping? key') :
    (c.learnMapping key r).mapping? key' = (c'.learnMapping key r).mapping? key' := by
  ext a
  rw [mapping?_learnMapping r missing, mapping?_learnMapping r missing', same]

theorem sequence?_learnSequence_congr {c' : Cache} {v u : Value}
    (r : Except EvalError (Deconstructed (List Value))) (missing : c.sequence? v = none)
    (missing' : c'.sequence? v = none) (same : c.sequence? u = c'.sequence? u) :
    (c.learnSequence v r).sequence? u = (c'.learnSequence v r).sequence? u := by
  ext a
  rw [sequence?_learnSequence r missing, sequence?_learnSequence r missing', same]

end Cache

/-- The session after a step of the host. -/
def Session.withWorld {σ : Type} (s : Session σ) (world : σ) : Session σ := { s with world }

namespace Engine

variable {σ : Type} (e : Engine σ)

/-- The key under which the answer to a request is kept; `none` when it is not kept. -/
def mappingKey? (v : Value) (requested : Option (List Name)) : Option MappingKey :=
  match v.identity?, e.config.keysCache.scope? requested with
  | some id, some scope => some ⟨id, scope⟩
  | _, _ => none

theorem mappingKey?_eq_some {v : Value} {requested : Option (List Name)} {key : MappingKey} :
    e.mappingKey? v requested = some key ↔
      v.identity? = some key.id ∧ e.config.keysCache.scope? requested = some key.scope := by
  obtain ⟨id, scope⟩ := key
  unfold mappingKey?
  cases v.identity? <;> cases e.config.keysCache.scope? requested <;> simp

theorem shared_mappingKey? {v u : Value} {requested requested' : Option (List Name)} :
    Shared (e.mappingKey? v requested) (e.mappingKey? u requested') ↔
      Shared v.identity? u.identity? ∧
        Shared (e.config.keysCache.scope? requested) (e.config.keysCache.scope? requested') := by
  constructor
  · rintro ⟨key, h, h'⟩
    obtain ⟨hid, hscope⟩ := e.mappingKey?_eq_some.1 h
    obtain ⟨hid', hscope'⟩ := e.mappingKey?_eq_some.1 h'
    exact ⟨⟨key.id, hid, hid'⟩, ⟨key.scope, hscope, hscope'⟩⟩
  · rintro ⟨⟨id, hid, hid'⟩, ⟨scope, hscope, hscope'⟩⟩
    exact ⟨⟨id, scope⟩, e.mappingKey?_eq_some.2 ⟨hid, hscope⟩,
      e.mappingKey?_eq_some.2 ⟨hid', hscope'⟩⟩

/-- The session after a report. -/
def reported (event : Event) (s : Session σ) : Session σ :=
  s.withWorld (e.host.observe event s.world).2

variable {v : Value} {p : HashPattern} {s : MatchState σ}

theorem sequence_kept {a : Deconstructed (List Value)} (kept : s.cache.sequence? v = some a) :
    e.sequence v s = (.ok a,
      ⟨e.reported .sequenceFromCache s.session, s.bindings, s.cache.countHit⟩) := by
  obtain ⟨id, hid, found⟩ := Option.bind_eq_some_iff.1 kept
  simp only [sequence, hid, HostM.bind_apply, MatchM.getCache, found]
  rfl

theorem sequence_asked (missing : s.cache.sequence? v = none) :
    e.sequence v s =
      let (r, world) := e.host.deconstruct v s.session.world
      (r, ⟨s.session.withWorld world, s.bindings, s.cache.learnSequence v r⟩) := by
  cases hid : v.identity? with
  | none =>
    simp only [sequence, hid, HostM.bind_apply, Cache.learnSequence]
    rfl
  | some id =>
    have absent : s.cache.sequences[id]? = none := by
      simpa [Cache.sequence?, hid] using missing
    simp only [sequence, hid, HostM.bind_apply, MatchM.getCache, absent, MatchM.modifyCache,
      MatchM.ofHost, MatchM.ofEval, EvalM.ofHost]
    simp only [Cache.learnSequence, hid]
    rcases e.host.deconstruct v s.session.world with ⟨_ | a, world⟩ <;> rfl

theorem askMapping_apply (v : Value) (requested : Option (List Name)) (s : MatchState σ) :
    e.askMapping v requested s =
      let (r, world) := e.host.deconstructKeys v requested s.session.world
      (r, ⟨s.session.withWorld world, s.bindings, s.cache.countMapping⟩) := by
  simp only [askMapping, HostM.bind_apply]
  rfl

/-- The mapping of a value before its keys are checked. -/
def rawMapping (p : HashPattern) (v : Value) : MatchM σ (Deconstructed Mapping) :=
  match e.mappingKey? v p.requestedKeys with
  | some key => e.keptMapping key v p.requestedKeys
  | none => e.askMapping v p.requestedKeys

theorem mapping_eq (p : HashPattern) (v : Value) :
    e.mapping p v = e.rawMapping p v >>= fun answer => pure (e.checkKeys p v answer) := by
  dsimp only [mapping, rawMapping, mappingKey?]
  cases v.identity? <;> cases e.config.keysCache.scope? p.requestedKeys <;> rfl

theorem rawMapping_kept {a : Deconstructed Mapping}
    (kept : s.cache.mapping? (e.mappingKey? v p.requestedKeys) = some a) :
    e.rawMapping p v s =
      (.ok a, ⟨e.reported .mappingFromCache s.session, s.bindings, s.cache.countHit⟩) := by
  obtain ⟨key, hkey, found⟩ := Option.bind_eq_some_iff.1 kept
  simp only [rawMapping, hkey, keptMapping, HostM.bind_apply, MatchM.getCache, found]
  rfl

theorem rawMapping_asked (missing : s.cache.mapping? (e.mappingKey? v p.requestedKeys) = none) :
    e.rawMapping p v s =
      let (r, world) := e.host.deconstructKeys v p.requestedKeys s.session.world
      (r, ⟨s.session.withWorld world, s.bindings,
        s.cache.learnMapping (e.mappingKey? v p.requestedKeys) r⟩) := by
  cases hkey : e.mappingKey? v p.requestedKeys with
  | none =>
    simp only [rawMapping, hkey, askMapping_apply, Cache.learnMapping]
  | some key =>
    have absent : s.cache.mappings[key]? = none := by
      simpa [Cache.mapping?, hkey] using missing
    simp only [rawMapping, hkey, keptMapping, HostM.bind_apply, MatchM.getCache, absent,
      askMapping_apply, MatchM.modifyCache]
    rcases e.host.deconstructKeys v p.requestedKeys s.session.world with ⟨_ | a, world⟩ <;> rfl

theorem mapping_kept {a : Deconstructed Mapping}
    (kept : s.cache.mapping? (e.mappingKey? v p.requestedKeys) = some a) :
    e.mapping p v s = (.ok (e.checkKeys p v a),
      ⟨e.reported .mappingFromCache s.session, s.bindings, s.cache.countHit⟩) := by
  rw [mapping_eq, HostM.bind_apply, e.rawMapping_kept kept]
  rfl

theorem mapping_asked (missing : s.cache.mapping? (e.mappingKey? v p.requestedKeys) = none) :
    e.mapping p v s =
      let (r, world) := e.host.deconstructKeys v p.requestedKeys s.session.world
      (r.map (e.checkKeys p v),
        ⟨s.session.withWorld world, s.bindings,
          s.cache.learnMapping (e.mappingKey? v p.requestedKeys) r⟩) := by
  rw [mapping_eq, HostM.bind_apply, e.rawMapping_asked missing]
  rcases e.host.deconstructKeys v p.requestedKeys s.session.world with ⟨_ | a, world⟩ <;> rfl

end Engine

end PatternDispatch
