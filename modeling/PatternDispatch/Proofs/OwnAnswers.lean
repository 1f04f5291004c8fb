import PatternDispatch.Proofs.KeyStrictness
import PatternDispatch.Proofs.SideBySide

/-! A hash is its own answer. Whether it is asked or an answer was kept for it does not matter, as
long as a value is known by its identity; so one may as well say that hashes are never asked, and
that nothing is kept for them. -/
namespace PatternDispatch

open Dialogue

/-- The mapping that a hash is. -/
def Value.ownMapping? : Value → Option Mapping
  | .hash id pairs => some ⟨id, pairs⟩
  | _ => none

theorem Value.ownMapping?_eq_some {v : Value} {m : Mapping} :
    v.ownMapping? = some m ↔ v = .hash m.id m.pairs := by
  cases v with
  | hash id pairs =>
    obtain ⟨id', pairs'⟩ := m
    simp [ownMapping?]
  | _ => simp [ownMapping?]

/-- Hashes open themselves, whatever else the host does. -/
def Host.OpensHashes {σ : Type} (h : Host σ) : Prop :=
  ∀ v m, v.ownMapping? = some m → ∀ requested w,
    h.deconstructKeys v requested w = (.ok (.supported m), w)

theorem Host.opensHashes_of_default {σ : Type} {h : Host σ} {methods : Methods σ}
    (default : ∀ v requested, h.deconstructKeys v requested =
      ExceptT.lift (v.deconstructKeys methods requested)) : h.OpensHashes := by
  intro v m own requested w
  rw [default, Value.ownMapping?_eq_some.1 own]
  rfl

namespace Engine

variable {σ : Type} (e : Engine σ)

/-- Hashes are their own answers; anything else may be answered from what is kept. -/
def ownHashes : Answerer (Standing σ)
  | .mapping p v => fun t =>
    match v.ownMapping? with
    | some m => (.ok (.supported m), t)
    | none => e.cached (.mapping p v) t
  | q => e.cached q

/-- Requests that may share a kept answer are made to one value: it is known by its identity. -/
def TellsApart (asked : List Question) : Prop :=
  ∀ p u q v, .mapping p u ∈ asked → .mapping q v ∈ asked →
    Shared (e.mappingKey? u p.requestedKeys) (e.mappingKey? v q.requestedKeys) → u = v

/-- What is kept where hashes may be asked, and where they never are. -/
structure BesideOwn (asked : List Question) (t t' : Standing σ) : Prop where
  session : t.session = t'.session
  sequences (v : Value) : t.cache.sequence? v = t'.cache.sequence? v
  mappings {p : HashPattern} {v : Value} (h : .mapping p v ∈ asked)
    (foreign : v.ownMapping? = none) :
    t.cache.mapping? (e.mappingKey? v p.requestedKeys) =
      t'.cache.mapping? (e.mappingKey? v p.requestedKeys)
  hashes {p : HashPattern} {v : Value} {m : Mapping} {a : Deconstructed Mapping}
    (h : .mapping p v ∈ asked) (own : v.ownMapping? = some m)
    (kept : t.cache.mapping? (e.mappingKey? v p.requestedKeys) = some a) : a = .supported m

variable {e} {asked : List Question} {t t' : Standing σ}

theorem besideOwn_empty (s : Session σ) : e.BesideOwn asked ⟨s, .empty⟩ ⟨s, .empty⟩ where
  session := rfl
  sequences _ := rfl
  mappings _ _ := rfl
  hashes _ _ kept := by simp at kept

theorem sequence_besideOwn (h : e.silent.BesideOwn asked t t') (v : Value) :
    (e.silent.cached (.sequence v) t).1 = (e.silent.cached (.sequence v) t').1 ∧
      e.silent.BesideOwn asked (e.silent.cached (.sequence v) t).2
        (e.silent.cached (.sequence v) t').2 := by
  have same := h.sequences v
  cases kept : t.cache.sequence? v with
  | some a =>
    rw [cached_sequence_kept _ kept, cached_sequence_kept _ (same ▸ kept)]
    exact ⟨rfl, h.session, h.sequences, h.mappings, h.hashes⟩
  | none =>
    have missing : t'.cache.sequence? v = none := same ▸ kept
    rw [cached_sequence_asked _ kept, cached_sequence_asked _ missing, h.session]
    refine ⟨rfl, rfl, fun u => ?_, fun asked foreign => ?_, fun asked own there => ?_⟩
    · exact Cache.sequence?_learnSequence_congr _ kept missing (h.sequences u)
    · exact (Cache.mapping?_learnSequence _ _ _ _).trans
        ((h.mappings asked foreign).trans (Cache.mapping?_learnSequence _ _ _ _).symm)
    · exact h.hashes asked own ((Cache.mapping?_learnSequence _ _ _ _).symm.trans there)

/-- A hash gives itself for an answer, and what is kept of it does not show. -/
theorem own_besideOwn (opens : e.host.OpensHashes) (apart : e.silent.TellsApart asked)
    (h : e.silent.BesideOwn asked t t') {p : HashPattern} {v : Value} {m : Mapping}
    (here : .mapping p v ∈ asked) (own : v.ownMapping? = some m) :
    (e.silent.cached (.mapping p v) t).1 = .ok (.supported m) ∧
      e.silent.BesideOwn asked (e.silent.cached (.mapping p v) t).2 t' := by
  have unchecked : e.silent.checkKeys p v (.supported m) = .supported m := by
    rw [Value.ownMapping?_eq_some.1 own]
    exact checkKeys_own _ p m.id m.pairs m.pairs
  cases kept : t.cache.mapping? (e.silent.mappingKey? v p.requestedKeys) with
  | some a =>
    obtain rfl := h.hashes here own kept
    rw [cached_mapping_kept _ kept]
    exact ⟨congrArg Except.ok unchecked, h.session, h.sequences, h.mappings, h.hashes⟩
  | none =>
    have answer : e.silent.host.deconstructKeys v p.requestedKeys t.session.world =
        (.ok (.supported m), t.session.world) := opens v m own _ _
    rw [cached_mapping_asked _ kept, answer]
    refine ⟨congrArg Except.ok unchecked, h.session, fun u => ?_, fun {q u} asked foreign => ?_,
      fun {q u m' a} asked own' there => ?_⟩
    · exact (Cache.sequence?_learnMapping _ _ _ _).trans (h.sequences u)
    · refine (Cache.mapping?_learnMapping_of_apart _ kept fun shared => ?_).trans
        (h.mappings asked foreign)
      rw [apart p v q u here asked shared, foreign] at own
      cases own
    · rcases (Cache.mapping?_learnMapping _ kept).1 there with old | ⟨shared, given⟩
      · exact h.hashes asked own' old
      · rw [apart p v q u here asked shared, own'] at own
        cases own
        exact (Except.ok.inj given).symm

/-- Anything else is asked, or answered from what is kept, as it would be. -/
theorem foreign_besideOwn (apart : e.silent.TellsApart asked)
    (h : e.silent.BesideOwn asked t t') {p : HashPattern} {v : Value}
    (here : .mapping p v ∈ asked) (foreign : v.ownMapping? = none) :
    (e.silent.cached (.mapping p v) t).1 = (e.silent.cached (.mapping p v) t').1 ∧
      e.silent.BesideOwn asked (e.silent.cached (.mapping p v) t).2
        (e.silent.cached (.mapping p v) t').2 := by
  have same := h.mappings here foreign
  cases kept : t.cache.mapping? (e.silent.mappingKey? v p.requestedKeys) with
  | some a =>
    rw [cached_mapping_kept _ kept, cached_mapping_kept _ (same ▸ kept)]
    exact ⟨rfl, h.session, h.sequences, h.mappings, h.hashes⟩
  | none =>
    have missing : t'.cache.mapping? (e.silent.mappingKey? v p.requestedKeys) = none := same ▸ kept
    rw [cached_mapping_asked _ kept, cached_mapping_asked _ missing, h.session]
    refine ⟨rfl, rfl, fun u => ?_, fun {q u} asked foreign' => ?_,
      fun {q u m a} asked own there => ?_⟩
    · exact (Cache.sequence?_learnMapping _ _ _ _).trans
        ((h.sequences u).trans (Cache.sequence?_learnMapping _ _ _ _).symm)
    · exact Cache.mapping?_learnMapping_congr _ kept missing (h.mappings asked foreign')
    · rcases (Cache.mapping?_learnMapping _ kept).1 there with old | ⟨shared, -⟩
      · exact h.hashes asked own old
      · rw [apart p v q u here asked shared, own] at foreign
        cases foreign

theorem ownHashes_of_own (p : HashPattern) {v : Value} {m : Mapping} (own : v.ownMapping? = some m)
    (t : Standing σ) : e.ownHashes (.mapping p v) t = (.ok (.supported m), t) := by
  simp only [ownHashes, own]

theorem ownHashes_of_foreign (p : HashPattern) {v : Value} (foreign : v.ownMapping? = none)
    (t : Standing σ) : e.ownHashes (.mapping p v) t = e.cached (.mapping p v) t := by
  simp only [ownHashes, foreign]

/-- One question, where hashes may be asked and where they never are. -/
theorem asked_besideOwn (opens : e.host.OpensHashes) (apart : e.silent.TellsApart asked)
    {q : Question} (here : q ∈ asked) (h : e.silent.BesideOwn asked t t') :
    (e.silent.cached q t).1 = (e.silent.ownHashes q t').1 ∧
      e.silent.BesideOwn asked (e.silent.cached q t).2 (e.silent.ownHashes q t').2 := by
  rcases q.opens_cases with ⟨v, rfl⟩ | ⟨p, v, rfl⟩ | plain
  · exact sequence_besideOwn h v
  · cases own : v.ownMapping? with
    | some m =>
      rw [ownHashes_of_own p own]
      exact own_besideOwn opens apart h here own
    | none =>
      rw [ownHashes_of_foreign p own]
      exact foreign_besideOwn apart h here own
  · have same : e.silent.ownHashes q = e.silent.cached q := by
      cases q with
      | mapping p v => cases plain
      | _ => rfl
    rw [same, e.silent.cached_of_plain plain]
    refine ⟨congrArg (fun s => (e.silent.direct q s).1) h.session, ?_, h.sequences, h.mappings,
      h.hashes⟩
    exact congrArg (fun s => (e.silent.direct q s).2) h.session

/-- A run in which values are known by their identities is the run in which no hash is asked. -/
theorem run_besideOwn {α : Type} (opens : e.host.OpensHashes) (d : Dialogue α) (s : Session σ)
    (apart : e.silent.TellsApart (questions e.silent.cached d ⟨s, .empty⟩)) :
    (run e.silent.cached d ⟨s, .empty⟩).1 = (run e.silent.ownHashes d ⟨s, .empty⟩).1 ∧
      (run e.silent.cached d ⟨s, .empty⟩).2.session =
        (run e.silent.ownHashes d ⟨s, .empty⟩).2.session ∧
      questions e.silent.cached d ⟨s, .empty⟩ = questions e.silent.ownHashes d ⟨s, .empty⟩ := by
  obtain ⟨result, after, asked⟩ := run_side_by_side
    (fun q t t' here h => asked_besideOwn opens apart here h) (d := d) (fun q hq => hq)
    (besideOwn_empty s)
  exact ⟨result, after.session, asked⟩

end Engine

end PatternDispatch
