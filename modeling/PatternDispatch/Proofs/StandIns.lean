import PatternDispatch.Proofs.AlikeAnswers
import PatternDispatch.Proofs.GenuineAnswers
import PatternDispatch.Proofs.SymbolKeys

/-! Objects that stand in for a hash. Such an object answers a request for keys with just the pairs
of the hash that are asked for, in any order, and a request for all keys with all pairs. Its hook
may keep a state of its own that the rest of the host does not look at. Patterns cannot tell what it
answers at one time from what it answers at another, so two matches that differ only in how often
the object or the hash was asked stay alongside each other. -/
namespace PatternDispatch

open Dialogue

/-- A pattern that asks for some keys only asks for its own. -/
theorem HashPattern.asks_for_key (p : HashPattern) {n : Name} (hn : n ∈ p.keys) (keys : List Name)
    (requested : p.requestedKeys = some keys) : n ∈ keys := by
  cases rest : p.rest with
  | named t => simp [requestedKeys, rest] at requested
  | _ =>
    simp only [requestedKeys, rest, Option.some.injEq] at requested
    exact requested ▸ hn

namespace Pairs

/-- The pairs that a request for keys is to be answered with; no request names an order. -/
def Honours (pairs : Pairs) : Option (List Name) → Pairs → Prop
  | none, answer => answer = pairs
  | some keys, answer => List.Perm answer (restrict keys pairs)

variable {pairs answer answer' : Pairs} {requested requested' : Option (List Name)}

theorem Honours.subset (h : pairs.Honours requested answer) : ∀ entry ∈ answer, entry ∈ pairs := by
  intro entry inside
  cases requested with
  | none => exact h ▸ inside
  | some keys => exact (mem_restrict.1 (List.Perm.mem_iff h |>.1 inside)).1

theorem Honours.distinct (h : pairs.Honours requested answer) (distinct : pairs.symbolKeys.Nodup) :
    answer.symbolKeys.Nodup := by
  cases requested with
  | none => exact h ▸ distinct
  | some keys =>
    have same : answer.symbolKeys.Perm (restrict keys pairs).symbolKeys := List.Perm.filterMap _ h
    rw [same.nodup_iff, symbolKeys_restrict]
    exact distinct.filter _

/-- What is answered under a requested key is what there is under it. -/
theorem Honours.getSymbol? (h : pairs.Honours requested answer) (distinct : pairs.symbolKeys.Nodup)
    {n : Name} (asked : ∀ keys, requested = some keys → n ∈ keys) :
    answer.getSymbol? n = pairs.getSymbol? n := by
  cases requested with
  | none => rw [show answer = pairs from h]
  | some keys =>
    apply getSymbol?_congr (Honours.distinct h distinct) distinct
    intro v
    rw [List.Perm.mem_iff h, mem_restrict]
    constructor
    · exact And.left
    · exact fun inside => ⟨inside, n, asked keys rfl, rfl⟩

/-- Where answers are not kept for all requests alike, requests that share an answer ask for the
same pairs. -/
theorem Honours.of_shares {policy : KeysCachePolicy} (exact : policy ≠ .perValue)
    (shared : policy.Shares requested requested') (h : pairs.Honours requested answer) :
    pairs.Honours requested' answer := by
  cases policy with
  | perValue => exact absurd rfl exact
  | uncached => exact shared.elim
  | perKeySet =>
    cases requested <;> cases requested'
    · exact h
    · exact shared.elim
    · exact shared.elim
    · next keys keys' =>
      have same : restrict keys pairs = restrict keys' pairs := by
        refine List.filter_congr fun entry _ => ?_
        refine congrArg (entry.1.symbol?.any ·) (funext fun n => ?_)
        rw [Bool.eq_iff_iff, List.contains_iff_mem, List.contains_iff_mem]
        exact shared n
      change List.Perm answer (restrict keys' pairs)
      rw [← same]
      exact h

/-- A pattern cannot tell two answers to its request apart. -/
theorem Honours.alike {p : HashPattern} (distinct : pairs.symbolKeys.Nodup) {i j : Identity}
    (h : pairs.Honours p.requestedKeys answer) (h' : pairs.Honours p.requestedKeys answer') :
    p.Alike (.supported ⟨i, answer⟩) (.supported ⟨j, answer'⟩) := by
  apply HashPattern.Alike.mappings
  · intro n hn
    rw [h.getSymbol? distinct (p.asks_for_key hn), h'.getSymbol? distinct (p.asks_for_key hn)]
  · cases requested : p.requestedKeys with
    | none =>
      rw [requested] at h h'
      rw [show answer = pairs from h, show answer' = pairs from h']
    | some keys =>
      rw [requested] at h h'
      exact (List.Perm.length_eq h).trans (List.Perm.length_eq h').symm
  · intro requested
    rw [requested] at h h'
    exact Eq.trans h (Eq.symm h')

end Pairs

/-- What a step does with its state, seen through `view`, depends on what can be seen of it only. -/
def HostM.Sees {τ ν α : Type} (view : τ → ν) (m : HostM τ α) : Prop :=
  ∀ w w', view w = view w' → (m w).1 = (m w').1 ∧ view (m w).2 = view (m w').2

/-- The variables, and what can be seen of the host. -/
def Session.through {σ ν : Type} (view : σ → ν) (s : Session σ) : Environment × ν :=
  (s.env, view s.world)

/-- What patterns ask of a host depends on what can be seen of its state only, apart from requests
for the keys of an object. -/
structure Host.SeesOnly {σ ν : Type} (h : Host σ) (view : σ → ν) (object : Identity) : Prop where
  eval (x : ExprId) : HostM.Sees (Session.through view) (h.eval x)
  resolveExternal (r : ExternalRef) : HostM.Sees view (h.resolveExternal r)
  caseEq (p v : Value) : HostM.Sees view (h.caseEq p v)
  deconstruct (v : Value) : HostM.Sees view (h.deconstruct v)
  deconstructKeys {v : Value} (other : v.identity? ≠ some object)
    (requested : Option (List Name)) : HostM.Sees view (h.deconstructKeys v requested)
  fresh : HostM.Sees view (ExceptT.lift h.fresh : HostM σ Identity)

/-- Where the whole state can be seen, nothing depends on more. -/
theorem Host.SeesOnly.whole {σ : Type} (h : Host σ) (object : Identity) : h.SeesOnly id object := by
  have sees {τ ν α : Type} {view : τ → ν} (injective : ∀ w w', view w = view w' → w = w')
      (m : HostM τ α) : HostM.Sees view m := by
    intro w w' same
    obtain rfl := injective w w' same
    exact ⟨rfl, rfl⟩
  have session : ∀ s s' : Session σ, s.through id = s'.through id → s = s' := by
    rintro ⟨env, world⟩ ⟨env', world'⟩ same
    obtain ⟨rfl, rfl⟩ := Prod.mk.inj same
    rfl
  have world : ∀ w w' : σ, id w = id w' → w = w' := fun w w' same => same
  exact ⟨fun _ => sees session _, fun _ => sees world _, fun _ _ => sees world _,
    fun _ => sees world _, fun _ _ => sees world _, sees world _⟩

/-- An object, and the hash with symbol keys that it stands in for. -/
structure StandIn where
  object : Identity
  className : Name
  ancestors : List Name
  hash : Identity
  entries : List (Name × Value)

namespace StandIn

variable (d : StandIn)

/-- The pairs of the hash. -/
def pairs : Pairs := .ofSymbols d.entries

/-- The object. -/
def value : Value := .object d.object d.className d.ancestors

/-- The hash itself. -/
def original : Value := .hash d.hash d.pairs

theorem distinct : d.pairs.symbolKeys.Nodup := Pairs.symbolKeys_ofList_nodup _

theorem symbols : ∀ entry ∈ d.pairs, ∃ n, entry.1 = .symbol n := Pairs.ofSymbols_symbols _

/-- Patterns are matched against the object or the hash. -/
def Root (v : Value) : Prop := v = d.value ∨ v = d.original

/-- The hook of the object honours every request, and nobody sees that it was called. -/
def HonouredBy {σ ν : Type} (methods : Methods σ) (view : σ → ν) : Prop :=
  ∃ hook, methods.mapping? d.object = some hook ∧
    ∀ requested w, ∃ i answer w', hook requested w = (.hash i answer, w') ∧
      d.pairs.Honours requested answer ∧ view w' = view w

/-- No other values that can be met have the identity of the object or of the hash. -/
def Alone {σ : Type} (h : Host σ) : Prop :=
  ∀ v, h.Meets d.Root v →
    (v.identity? = some d.object → v = d.value) ∧ (v.identity? = some d.hash → v = d.original)

/-- The object honours every request for its keys, and nobody sees that it was asked; the hash
answers for itself. -/
structure Honoured {σ ν : Type} (h : Host σ) (view : σ → ν) : Prop where
  object (requested : Option (List Name)) (w : σ) : ∃ i answer w',
    h.deconstructKeys d.value requested w = (.ok (.supported ⟨i, answer⟩), w') ∧
      d.pairs.Honours requested answer ∧ view w' = view w
  hash (requested : Option (List Name)) (w : σ) :
    h.deconstructKeys d.original requested w = (.ok (.supported ⟨d.hash, d.pairs⟩), w)
  alone : d.Alone h
  rest : h.SeesOnly view d.object

variable {d}

/-- Where values answer requests for keys themselves, it is the hook that answers for the object. -/
theorem honoured_of_hook {σ ν : Type} {e : Engine σ} {view : σ → ν} {methods : Methods σ}
    (default : ∀ v requested, e.host.deconstructKeys v requested =
      ExceptT.lift (v.deconstructKeys methods requested))
    (honours : d.HonouredBy methods view) (alone : d.Alone e.host)
    (rest : e.host.SeesOnly view d.object) : d.Honoured e.host view where
  object requested w := by
    obtain ⟨hook, defined, answers⟩ := honours
    obtain ⟨i, answer, w', called, honoured, unseen⟩ := answers requested w
    refine ⟨i, answer, w', ?_, honoured, unseen⟩
    rw [default, value]
    simp only [Value.deconstructKeys, defined]
    change (Except.ok (hook requested w).1.asMapping, (hook requested w).2) = _
    rw [called]
    rfl
  hash requested w := by
    rw [default]
    rfl
  alone := alone
  rest := rest

end StandIn

namespace HostM

variable {σ ν α : Type} {view : σ → ν}

theorem Sees.ofHost {m : HostM σ α} (h : Sees view m) :
    Sees (Session.through view) (EvalM.ofHost m) := by
  intro s s' same
  obtain ⟨env, world⟩ := Prod.mk.inj same
  obtain ⟨result, after⟩ := h _ _ world
  exact ⟨result, Prod.ext env after⟩

theorem Sees.inScope {m : EvalM σ α} (h : Sees (Session.through view) m)
    (enter : Environment → Environment) :
    Sees (Session.through view) (EvalM.inScope enter m) := by
  intro s s' same
  obtain ⟨env, world⟩ := Prod.mk.inj same
  have entered : Session.through view { s with env := enter s.env } =
      Session.through view { s' with env := enter s'.env } :=
    Prod.ext (congrArg enter env) world
  obtain ⟨result, after⟩ := h _ _ entered
  obtain ⟨env', world'⟩ := Prod.mk.inj after
  exact ⟨result, Prod.ext (congrArg Environment.pop env') world'⟩

end HostM

namespace Engine

variable {σ ν α : Type} {e : Engine σ} {view : σ → ν} {d : StandIn} {t t' u : Standing σ}

/-- All that patterns ask for, apart from opening values, depends on what can be seen. -/
theorem direct_sees (rest : e.host.SeesOnly view d.object) {S : Value → Prop}
    {refs : ValueRef → Prop} {q : Question} (asked : (Contract.matching S refs).asks q)
    (plain : q.opens = false) : HostM.Sees (Session.through view) (e.silent.direct q) := by
  cases q with
  | evalWith bs x => exact (rest.eval x).inScope _
  | visible n =>
    intro s s' same
    obtain ⟨env, world⟩ := Prod.mk.inj same
    have found : s.env.lookup? n = s'.env.lookup? n := congrArg (Environment.lookup? · n) env
    exact ⟨congrArg Except.ok found, same⟩
  | external r => exact (rest.resolveExternal r).ofHost
  | caseEq p v => exact (rest.caseEq p v).ofHost
  | fresh => exact rest.fresh.ofHost
  | report event => exact fun s s' same => ⟨rfl, same⟩
  | sequence v => cases plain
  | mapping p v => cases plain
  | _ => exact asked.2.elim

/-- Two standings that differ in nothing but what they keep of the object and the hash, and in what
cannot be seen of the host. -/
structure Alongside (e : Engine σ) (view : σ → ν) (d : StandIn) (t t' : Standing σ) : Prop where
  session : t.session.through view = t'.session.through view
  sequences (v : Value) : t.cache.sequence? v = t'.cache.sequence? v
  mappings {v : Value} (object : v.identity? ≠ some d.object) (hash : v.identity? ≠ some d.hash)
    (requested : Option (List Name)) :
    t.cache.mapping? (e.mappingKey? v requested) = t'.cache.mapping? (e.mappingKey? v requested)

theorem Alongside.refl (t : Standing σ) : e.Alongside view d t t where
  session := rfl
  sequences _ := rfl
  mappings _ _ _ := rfl

theorem Alongside.symm (h : e.Alongside view d t t') : e.Alongside view d t' t where
  session := h.session.symm
  sequences v := (h.sequences v).symm
  mappings object hash requested := (h.mappings object hash requested).symm

theorem Alongside.trans (h : e.Alongside view d t t') (h' : e.Alongside view d t' u) :
    e.Alongside view d t u where
  session := h.session.trans h'.session
  sequences v := (h.sequences v).trans (h'.sequences v)
  mappings object hash requested :=
    (h.mappings object hash requested).trans (h'.mappings object hash requested)

/-- Alongside each other, and with genuine answers. -/
structure Together (e : Engine σ) (view : σ → ν) (d : StandIn) (t t' : Standing σ) : Prop where
  alongside : e.Alongside view d t t'
  left : e.silent.Genuine d.Root t.cache
  right : e.silent.Genuine d.Root t'.cache

/-- What is asked of one host is asked of its deaf copy. -/
theorem silent_meets {roots : Value → Prop} {v : Value} (met : e.silent.host.Meets roots v) :
    e.host.Meets roots v := by
  induction met with
  | root hv => exact .root hv
  | item inside answer hu ih => exact .item ih answer hu
  | entry inside answer hp ih => exact .entry ih answer hp

theorem checkKeys_symbols {p : HashPattern} {v : Value} {m : Mapping}
    (symbols : ∀ entry ∈ m.pairs, ∃ n, entry.1 = .symbol n) :
    e.checkKeys p v (.supported m) = .supported m := by
  have unspelled : e.misspelledKey? p m.pairs = none := by
    rw [misspelledKey?, List.findSome?_eq_none_iff]
    intro entry inside
    obtain ⟨n, symbol⟩ := symbols entry inside
    rw [symbol]
    rfl
  simp only [checkKeys, unspelled, ite_self]

/-- An answer to a request for a mapping of a value that no other shares the identity of is the
value's own, to this request or to one that shares its answer. -/
theorem Offers.own {roots : Value → Prop} {v : Value} {requested : Option (List Name)}
    {raw : Deconstructed Mapping} (given : e.Offers roots v requested raw)
    (alone : ∀ u, e.host.Meets roots u → u.identity? = v.identity? → u = v) :
    ∃ requested' w w', e.host.deconstructKeys v requested' w = (.ok raw, w') ∧
      (requested' = requested ∨ e.config.keysCache.Shares requested' requested) := by
  obtain ⟨u, requested', w, w', met, ⟨rfl, rfl⟩ | shared, answer⟩ := given
  · exact ⟨_, w, w', answer, .inl rfl⟩
  · obtain ⟨⟨i, hu, hv⟩, sameScope⟩ := e.shared_mappingKey?.1 shared
    obtain rfl := alone u met (hu.trans hv.symm)
    exact ⟨requested', w, w', answer, .inr ((e.config.keysCache.shared_scope? _ _).1 sameScope)⟩

section

variable (honoured : d.Honoured e.host view) (p : HashPattern)

include honoured

/-- Whenever the object is asked, it honours the request. -/
theorem object_answer (exact : e.config.keysCache ≠ .perValue)
    (genuine : e.silent.Genuine d.Root t.cache) :
    ∃ i answer, (e.silent.cached (.mapping p d.value) t).1 = .ok (.supported ⟨i, answer⟩) ∧
      d.pairs.Honours p.requestedKeys answer := by
  have met : e.silent.host.Meets d.Root d.value := .root (.inl rfl)
  obtain ⟨-, ⟨raw, checked, given⟩ | ⟨error, w', failed, -⟩⟩ :=
    cached_mapping_genuine genuine met p
  · obtain ⟨requested, w, w', answer, same⟩ :=
      given.own fun u hu identity => (honoured.alone u (silent_meets hu)).1 identity
    obtain ⟨i, pairs, w'', answer', honours, -⟩ := honoured.object requested w
    cases answer'.symm.trans answer
    have symbols : ∀ entry ∈ pairs, ∃ n, entry.1 = .symbol n :=
      fun entry inside => d.symbols entry (honours.subset entry inside)
    refine ⟨i, pairs, checked.trans (congrArg Except.ok (checkKeys_symbols symbols)), ?_⟩
    rcases same with rfl | shared
    · exact honours
    · exact honours.of_shares exact shared
  · obtain ⟨i, pairs, w'', answer, -⟩ := honoured.object p.requestedKeys t.session.world
    cases answer.symm.trans failed

/-- The hash answers for itself. -/
theorem hash_answer (genuine : e.silent.Genuine d.Root t.cache) :
    (e.silent.cached (.mapping p d.original) t).1 = .ok (.supported ⟨d.hash, d.pairs⟩) := by
  have met : e.silent.host.Meets d.Root d.original := .root (.inr rfl)
  obtain ⟨-, ⟨raw, checked, given⟩ | ⟨error, w', failed, -⟩⟩ :=
    cached_mapping_genuine genuine met p
  · obtain ⟨requested, w, w', answer, -⟩ :=
      given.own fun u hu identity => (honoured.alone u (silent_meets hu)).2 identity
    cases (honoured.hash requested w).symm.trans answer
    exact checked.trans (congrArg Except.ok (checkKeys_symbols d.symbols))
  · cases (honoured.hash p.requestedKeys t.session.world).symm.trans failed

/-- Asking the object or the hash does not lead away. -/
theorem alongside_of_root {v : Value} (root : d.Root v) (t : Standing σ) :
    e.Alongside view d t (e.silent.cached (.mapping p v) t).2 := by
  cases kept : t.cache.mapping? (e.silent.mappingKey? v p.requestedKeys) with
  | some a =>
    rw [e.silent.cached_mapping_kept kept]
    exact ⟨rfl, fun _ => rfl, fun _ _ _ => rfl⟩
  | none =>
    rw [e.silent.cached_mapping_asked kept]
    rcases answer : e.silent.host.deconstructKeys v p.requestedKeys t.session.world with ⟨r, w'⟩
    have unseen : view w' = view t.session.world := by
      rcases root with rfl | rfl
      · obtain ⟨i, given, w'', answered, -, same⟩ :=
          honoured.object p.requestedKeys t.session.world
        cases answered.symm.trans answer
        exact same
      · cases (honoured.hash p.requestedKeys t.session.world).symm.trans answer
        rfl
    refine ⟨Prod.ext rfl unseen.symm, fun u => (Cache.sequence?_learnMapping _ _ _ u).symm, ?_⟩
    intro u object hash requested
    have apart : ¬ Shared (e.silent.mappingKey? v p.requestedKeys)
        (e.silent.mappingKey? u requested) := by
      intro shared
      obtain ⟨⟨i, hv, hu⟩, -⟩ := e.silent.shared_mappingKey?.1 shared
      rcases root with rfl | rfl
      · exact object (hu.trans hv.symm)
      · exact hash (hu.trans hv.symm)
    exact (Cache.mapping?_learnMapping_of_apart r kept apart).symm

/-- Whoever is asked for a sequence answers the same. -/
theorem together_sequence {v : Value} (met : e.silent.host.Meets d.Root v)
    (h : e.Together view d t t') :
    (e.silent.cached (.sequence v) t).1 = (e.silent.cached (.sequence v) t').1 ∧
    e.Together view d (e.silent.cached (.sequence v) t).2 (e.silent.cached (.sequence v) t').2 := by
  have left := (cached_sequence_genuine h.left met).1
  have right := (cached_sequence_genuine h.right met).1
  obtain ⟨session, sequences, mappings⟩ := h.alongside
  cases kept : t.cache.sequence? v with
  | some a =>
    have kept' := (sequences v).symm.trans kept
    rw [e.silent.cached_sequence_kept kept] at left ⊢
    rw [e.silent.cached_sequence_kept kept'] at right ⊢
    exact ⟨rfl, ⟨session, sequences, mappings⟩, left, right⟩
  | none =>
    have kept' := (sequences v).symm.trans kept
    rw [e.silent.cached_sequence_asked kept] at left ⊢
    rw [e.silent.cached_sequence_asked kept'] at right ⊢
    obtain ⟨env, world⟩ := Prod.mk.inj session
    obtain ⟨same, seen⟩ := honoured.rest.deconstruct v _ _ world
    refine ⟨same, ⟨Prod.ext env seen, ?_, ?_⟩, left, right⟩
    · intro u
      change (t.cache.learnSequence v _).sequence? u = (t'.cache.learnSequence v _).sequence? u
      rw [← show (e.host.deconstruct v t.session.world).1 = _ from same]
      exact Cache.sequence?_learnSequence_congr _ kept kept' (sequences u)
    · intro u object hash requested
      change (t.cache.learnSequence v _).mapping? _ = (t'.cache.learnSequence v _).mapping? _
      rw [Cache.mapping?_learnSequence, Cache.mapping?_learnSequence]
      exact mappings object hash requested

/-- Asked for the mapping of a value other than the two, both answer the same. -/
theorem together_mapping {v : Value} (met : e.silent.host.Meets d.Root v) (other : ¬ d.Root v)
    (h : e.Together view d t t') :
    (e.silent.cached (.mapping p v) t).1 = (e.silent.cached (.mapping p v) t').1 ∧
    e.Together view d (e.silent.cached (.mapping p v) t).2
      (e.silent.cached (.mapping p v) t').2 := by
  have left := (cached_mapping_genuine h.left met p).1
  have right := (cached_mapping_genuine h.right met p).1
  obtain ⟨session, sequences, mappings⟩ := h.alongside
  have object : v.identity? ≠ some d.object :=
    fun identity => other (.inl ((honoured.alone v (silent_meets met)).1 identity))
  have hash : v.identity? ≠ some d.hash :=
    fun identity => other (.inr ((honoured.alone v (silent_meets met)).2 identity))
  have same := mappings object hash p.requestedKeys
  cases kept : t.cache.mapping? (e.silent.mappingKey? v p.requestedKeys) with
  | some a =>
    have kept' := same.symm.trans kept
    rw [e.silent.cached_mapping_kept kept] at left ⊢
    rw [e.silent.cached_mapping_kept kept'] at right ⊢
    exact ⟨rfl, ⟨session, sequences, mappings⟩, left, right⟩
  | none =>
    have kept' := same.symm.trans kept
    rw [e.silent.cached_mapping_asked kept] at left ⊢
    rw [e.silent.cached_mapping_asked kept'] at right ⊢
    obtain ⟨env, world⟩ := Prod.mk.inj session
    obtain ⟨answer, seen⟩ := honoured.rest.deconstructKeys object p.requestedKeys _ _ world
    have checked := congrArg (Except.map (e.checkKeys p v)) answer
    refine ⟨checked, ⟨Prod.ext env seen, ?_, ?_⟩, left, right⟩
    · intro u
      change (t.cache.learnMapping _ _).sequence? u = (t'.cache.learnMapping _ _).sequence? u
      rw [Cache.sequence?_learnMapping, Cache.sequence?_learnMapping]
      exact sequences u
    · intro u object' hash' requested
      change (t.cache.learnMapping _ _).mapping? _ = (t'.cache.learnMapping _ _).mapping? _
      rw [← show (e.host.deconstructKeys v p.requestedKeys t.session.world).1 = _ from answer]
      exact Cache.mapping?_learnMapping_congr _ kept kept' (mappings object' hash' requested)

/-- Whatever patterns ask, the answers are alike, and the two standings stay together. -/
theorem together_step (exact : e.config.keysCache ≠ .perValue) {refs : ValueRef → Prop}
    {q : Question} (asked : (Contract.matching (e.silent.host.Meets d.Root) refs).asks q)
    (h : e.Together view d t t') :
    q.Agree (e.silent.cached q t).1 (e.silent.cached q t').1 ∧
    e.Together view d (e.silent.cached q t).2 (e.silent.cached q t').2 := by
  rcases q.opens_cases with ⟨v, rfl⟩ | ⟨p, v, rfl⟩ | plain
  · obtain ⟨same, together⟩ := together_sequence honoured asked.1 h
    rw [same]
    exact ⟨.rfl, together⟩
  · have met : e.silent.host.Meets d.Root v := asked.1
    by_cases root : d.Root v
    · have left := alongside_of_root honoured p root t
      have right := alongside_of_root honoured p root t'
      have alike : (Question.mapping p v).Agree (e.silent.cached (.mapping p v) t).1
          (e.silent.cached (.mapping p v) t').1 := by
        rcases root with rfl | rfl
        · obtain ⟨i, answer, given, honours⟩ := object_answer honoured p exact h.left
          obtain ⟨i', answer', given', honours'⟩ := object_answer honoured p exact h.right
          rw [given, given']
          exact .ok (honours.alike d.distinct honours')
        · rw [hash_answer honoured p h.left, hash_answer honoured p h.right]
          exact .rfl
      refine ⟨alike, left.symm.trans (h.alongside.trans right), ?_, ?_⟩
      · exact (cached_mapping_genuine h.left met p).1
      · exact (cached_mapping_genuine h.right met p).1
    · obtain ⟨same, together⟩ := together_mapping honoured p met root h
      rw [same]
      exact ⟨.rfl, together⟩
  · rw [e.silent.cached_of_plain plain]
    obtain ⟨same, seen⟩ := direct_sees honoured.rest asked plain _ _ h.alongside.session
    constructor
    · change q.Agree (e.silent.direct q t.session).1 (e.silent.direct q t'.session).1
      rw [same]
      exact .rfl
    · exact ⟨⟨seen, h.alongside.sequences, h.alongside.mappings⟩, h.left, h.right⟩

/-- So whatever patterns make of what they find, they make the same of it. -/
theorem run_together (exact : e.config.keysCache ≠ .perValue) {refs : ValueRef → Prop}
    {Q : α → Prop} {f : Dialogue α}
    (keeps : f.Keeps (.matching (e.silent.host.Meets d.Root) refs) Q) (indifferent : f.Indifferent)
    (h : e.Together view d t t') :
    (run e.silent.cached f t).1 = (run e.silent.cached f t').1 ∧
    e.Together view d (run e.silent.cached f t).2 (run e.silent.cached f t').2 := by
  refine run_alike (fun q s s' asked together => ?_) keeps indifferent h
  obtain ⟨agree, after⟩ := together_step honoured exact asked together
  exact ⟨agree, after, (cached_genuine together.left asked.1).2⟩

/-- Where a hash pattern makes the same of the object's answer as another one makes of the hash, the
object matches the one as the hash matches the other. -/
theorem matchHash_together (exact : e.config.keysCache ≠ .perValue) {p' : HashPattern} {bs : Bound}
    (same : ∀ answer, d.pairs.Honours p.requestedKeys answer →
      Persistent.matchPairs e.names p answer bs = Persistent.matchPairs e.names p' d.pairs bs)
    (h : e.Together view d t t') :
    let onObject := run e.silent.cached (Persistent.matchHash e.names p d.value bs) t
    let onHash := run e.silent.cached (Persistent.matchHash e.names p' d.original bs) t'
    onObject.1 = onHash.1 ∧ e.Together view d onObject.2 onHash.2 := by
  intro onObject onHash
  obtain ⟨i, answer, given, honours⟩ := object_answer honoured p exact h.left
  have given' := hash_answer honoured p' h.right
  have left := alongside_of_root honoured p (.inl rfl) t
  have right := alongside_of_root honoured p' (.inr rfl) t'
  have genuine := (cached_mapping_genuine h.left (.root (.inl rfl)) p).1
  have genuine' := (cached_mapping_genuine h.right (.root (.inr rfl)) p').1
  rcases asked : e.silent.cached (.mapping p d.value) t with ⟨r, s⟩
  rcases asked' : e.silent.cached (.mapping p' d.original) t' with ⟨r', s'⟩
  rw [asked] at given left genuine
  rw [asked'] at given' right genuine'
  obtain rfl : r = _ := given
  obtain rfl : r' = _ := given'
  have parts : ∀ entry ∈ d.pairs, e.silent.host.Meets d.Root entry.2 :=
    fun entry inside => .entry (.root (.inr rfl)) (honoured.hash none t.session.world) inside
  have together : e.Together view d s s' :=
    ⟨left.symm.trans (h.alongside.trans right), genuine, genuine'⟩
  dsimp only [onObject, onHash]
  rw [Persistent.run_matchHash asked, Persistent.run_matchHash asked', same answer honours]
  exact run_together honoured exact (Persistent.matchPairs_keeps p' parts bs)
    (Persistent.matchPairs_indifferent p' d.pairs bs) together

end

end Engine

end PatternDispatch
