import PatternDispatch.Proofs.DeclarativeReading
import PatternDispatch.Proofs.StandIns

/-! Closed hash patterns on objects. A closed pattern asks for its own keys only, as it does without
a rest. An object that honours the request leaves everything else out of its answer, so nothing is
left over that the pattern could refuse: on such an object a closed pattern is as good as one
without a rest. The hash that the object stands in for shows all of its keys, and there the two
differ. -/
namespace PatternDispatch

open Dialogue

namespace Pairs

variable {pairs : Pairs} {keys : List Name}

/-- Keys that are all there, and nothing else. -/
theorem length_eq_of_named (distinct : pairs.symbolKeys.Nodup) (once : keys.Nodup)
    (named : ∀ entry ∈ pairs, ∃ n ∈ keys, entry.1 = .symbol n)
    (present : ∀ n ∈ keys, n ∈ pairs.symbolKeys) : pairs.length = keys.length := by
  have counted := length_eq_of_present distinct present
  rw [otherPairs_eq_nil.2 named, once.dedup] at counted
  exact counted

/-- Keys that are all there, and something else. -/
theorem length_ne_of_other (distinct : pairs.symbolKeys.Nodup) (once : keys.Nodup)
    {entry : Value × Value} (inside : entry ∈ pairs) (other : ∀ n ∈ keys, entry.1 ≠ .symbol n)
    (present : ∀ n ∈ keys, n ∈ pairs.symbolKeys) : pairs.length ≠ keys.length := by
  have counted := length_eq_of_present distinct present
  have some : Engine.otherPairs keys pairs ≠ [] := by
    intro none
    obtain ⟨n, hn, same⟩ := otherPairs_eq_nil.1 none entry inside
    exact other n hn same
  have positive := List.length_pos_iff.2 some
  rw [once.dedup] at counted
  omega

end Pairs

namespace Persistent

variable {names : Interner} {entries : List (Name × Pattern)} {pairs answer : Pairs}

/-- What comes after the entries only has to do if all of them are there. -/
theorem matchEntries_bind_congr {α : Type} {k k' : Option Bound → Dialogue α}
    (missed : k none = k' none)
    (matched : (∀ n ∈ entries.map Prod.fst, n ∈ pairs.symbolKeys) →
      ∀ bs, k (some bs) = k' (some bs))
    (bs : Bound) :
    matchEntries names entries pairs bs >>= k = matchEntries names entries pairs bs >>= k' := by
  induction entries generalizing bs with
  | nil => exact matched (by simp) bs
  | cons entry entries ih =>
    obtain ⟨n, p⟩ := entry
    simp only [matchEntries]
    cases found : pairs.getSymbol? n with
    | none => exact missed
    | some v =>
      have here : n ∈ pairs.symbolKeys := Pairs.getSymbol?_isSome.1 (by rw [found]; rfl)
      have later := ih fun there => matched (by simpa using ⟨here, by simpa using there⟩)
      dsimp only
      rw [bind_assoc, bind_assoc]
      refine congrArg (matchNode names p v bs >>= ·) (funext fun opened => ?_)
      cases opened with
      | none => exact missed
      | some bs' => exact later bs'

theorem matchPairs_absent (pairs : Pairs) (bs : Bound) :
    matchPairs names ⟨entries, .absent⟩ pairs bs = matchEntries names entries pairs bs := by
  refine Eq.trans ?_ (bind_pure _)
  refine congrArg (_ >>= ·) (funext fun found => ?_)
  cases found <;> rfl

variable (distinct : pairs.symbolKeys.Nodup) (once : (entries.map Prod.fst).Nodup)

include distinct once

/-- A closed pattern is done with its entries where all pairs are named by them. -/
theorem matchPairs_closed
    (named : ∀ entry ∈ pairs, ∃ n ∈ entries.map Prod.fst, entry.1 = .symbol n) (bs : Bound) :
    matchPairs names ⟨entries, .closed⟩ pairs bs = matchEntries names entries pairs bs := by
  refine Eq.trans ?_ (bind_pure _)
  rw [matchPairs]
  apply matchEntries_bind_congr
  · rfl
  · intro present bs'
    have size := Pairs.length_eq_of_named distinct once named present
    rw [List.length_map] at size
    simp [matchRest, size]

/-- It never matches where there is another pair. -/
theorem matchPairs_closed_never {entry : Value × Value} (inside : entry ∈ pairs)
    (other : ∀ n ∈ entries.map Prod.fst, entry.1 ≠ .symbol n) (bs : Bound) :
    matchPairs names ⟨entries, .closed⟩ pairs bs =
      matchEntries names entries pairs bs >>= fun _ => pure none := by
  rw [matchPairs]
  apply matchEntries_bind_congr
  · rfl
  · intro present bs'
    have size := Pairs.length_ne_of_other distinct once inside other present
    rw [List.length_map] at size
    simp [matchRest, size]

/-- An answer that honours the request of a closed pattern has nothing left over, whatever its
order. -/
theorem matchPairs_closed_answer (h : pairs.Honours (some (entries.map Prod.fst)) answer)
    (bs : Bound) :
    matchPairs names ⟨entries, .closed⟩ answer bs = matchEntries names entries pairs bs := by
  have named : ∀ entry ∈ answer, ∃ n ∈ entries.map Prod.fst, entry.1 = .symbol n :=
    fun entry inside => (Pairs.mem_restrict.1 (List.Perm.mem_iff h |>.1 inside)).2
  have values : ∀ n ∈ entries.map Prod.fst, answer.getSymbol? n = pairs.getSymbol? n := by
    intro n hn
    apply h.getSymbol? distinct
    rintro _ ⟨⟩
    exact hn
  rw [matchPairs_closed (h.distinct distinct) once named, matchEntries_congr values]

end Persistent

namespace Engine

variable {σ ν : Type} {e : Engine σ} {d : StandIn} {view : σ → ν}

theorem matchValue_eq_run (e : Engine σ) (p : Pattern) (v : Value) (s : Session σ) :
    e.matchValue p v s =
      (.ofResult (run e.cached (Persistent.matchNode e.names p v []) ⟨s, .empty⟩).1,
        (run e.cached (Persistent.matchNode e.names p v []) ⟨s, .empty⟩).2.session) := by
  change ((e.attempt p v .empty s).1.1, (e.attempt p v .empty s).2) = _
  rw [e.attempt_eq_run p v ⟨s, .empty⟩]

/-- A new match of the object, and one of the hash that makes the same of it. -/
theorem matchValue_together (honoured : d.Honoured e.host view)
    (exact : e.config.keysCache ≠ .perValue) {p p' : HashPattern}
    (same : ∀ answer, d.pairs.Honours p.requestedKeys answer →
      Persistent.matchPairs e.names p answer [] = Persistent.matchPairs e.names p' d.pairs [])
    (s : Session σ) :
    let onObject := e.silent.matchValue (.hash p) d.value s
    let onHash := e.silent.matchValue (.hash p') d.original s
    onObject.1 = onHash.1 ∧ onObject.2.through view = onHash.2.through view := by
  intro onObject onHash
  have start : e.Together view d ⟨s, .empty⟩ ⟨s, .empty⟩ := ⟨.refl _, genuine_empty, genuine_empty⟩
  obtain ⟨result, together⟩ := matchHash_together honoured p exact same start
  dsimp only [onObject, onHash]
  rw [matchValue_eq_run, matchValue_eq_run]
  exact ⟨congrArg MatchOutcome.ofResult result, together.alongside.session⟩

/-- A closed pattern never matches the hash if there are pairs that it does not name. -/
theorem closed_refuses (honoured : d.Honoured e.host view) {p : HashPattern}
    (never : Persistent.matchPairs e.names p d.pairs [] =
      Persistent.matchEntries e.names p.entries d.pairs [] >>= fun _ => pure none)
    (s : Session σ) (b : Bindings) :
    (e.silent.matchValue (.hash p) d.original s).1 ≠ .matched b := by
  have given := hash_answer honoured p (t := ⟨s, .empty⟩) genuine_empty
  rcases asked : e.silent.cached (.mapping p d.original) ⟨s, .empty⟩ with ⟨r, t⟩
  rw [asked] at given
  obtain rfl : r = _ := given
  have outcome : (e.silent.matchValue (.hash p) d.original s).1 = .ofResult
      (run e.silent.cached (Persistent.matchHash e.names p d.original []) ⟨s, .empty⟩).1 :=
    congrArg Prod.fst (e.silent.matchValue_eq_run (.hash p) d.original s)
  rw [outcome, Persistent.run_matchHash asked, never, run_bind, HostM.bind_apply]
  rcases run e.silent.cached (Persistent.matchEntries e.names p.entries d.pairs []) t with
    ⟨error | found, t'⟩
  · nofun
  · nofun

/-- On an object that honours requests for its keys, a closed pattern with distinct keys comes to
what its entries alone come to on the hash that the object stands in for. So it comes to the same on
both if it names all keys of the hash. If there are others, it never matches the hash, whatever it
comes to on the object. -/
theorem closed_pattern_on_object (e : Engine σ) (exact : e.config.keysCache ≠ .perValue)
    (methods : Methods σ) (default : ∀ v requested, e.host.deconstructKeys v requested =
      ExceptT.lift (v.deconstructKeys methods requested))
    (d : StandIn) (view : σ → ν) (honours : d.HonouredBy methods view) (alone : d.Alone e.host)
    (rest : e.host.SeesOnly view d.object) (entries : List (Name × Pattern))
    (distinct : (entries.map Prod.fst).Nodup) (s : Session σ) :
    let keys := entries.map Prod.fst
    let onObject := e.silent.matchValue (.hash ⟨entries, .closed⟩) d.value s
    let onHash := fun rest => e.silent.matchValue (.hash ⟨entries, rest⟩) d.original s
    (onObject.1 = (onHash .absent).1 ∧
      onObject.2.through view = (onHash .absent).2.through view) ∧
    ((∀ entry ∈ d.pairs, ∃ n ∈ keys, entry.1 = .symbol n) →
      onObject.1 = (onHash .closed).1 ∧
        onObject.2.through view = (onHash .closed).2.through view) ∧
    ((∃ entry ∈ d.pairs, ∀ n ∈ keys, entry.1 ≠ .symbol n) →
      ∀ b, (onHash .closed).1 ≠ .matched b) := by
  intro keys onObject onHash
  have honoured := StandIn.honoured_of_hook default honours alone rest
  refine ⟨?_, fun named => ?_, fun ⟨entry, inside, other⟩ b => ?_⟩
  · apply matchValue_together honoured exact
    intro answer h
    rw [Persistent.matchPairs_closed_answer d.distinct distinct h, Persistent.matchPairs_absent]
  · apply matchValue_together honoured exact
    intro answer h
    rw [Persistent.matchPairs_closed_answer d.distinct distinct h,
      Persistent.matchPairs_closed d.distinct distinct named]
  · apply closed_refuses honoured
    exact Persistent.matchPairs_closed_never d.distinct distinct inside other []

end Engine

/-- One object has a hook, which selects the requested pairs of a hash. -/
def Methods.selecting (object hash : Identity) (pairs : Pairs) : Methods Nat where
  test _ _ := false
  sequence? _ := none
  mapping? id := if id = object then some fun
    | none => pure (.hash hash pairs)
    | some keys => pure (.hash ⟨hash.serial + 1⟩ (pairs.restrict keys))
    else none

namespace StandIn

theorem selecting_honours (d : StandIn) :
    d.HonouredBy (.selecting d.object d.hash d.pairs) id := by
  refine ⟨_, if_pos rfl, ?_⟩
  intro requested w
  cases requested with
  | none => exact ⟨_, _, w, rfl, rfl, rfl⟩
  | some keys => exact ⟨_, _, w, rfl, List.Perm.refl _, rfl⟩

/-- An object that stands in for a hash of two keys, both with the value `nil`. -/
def sample : StandIn := ⟨⟨7⟩, ⟨0⟩, [], ⟨8⟩, [(⟨1⟩, .nil), (⟨2⟩, .nil)]⟩

theorem sample_pairs : sample.pairs = [(.symbol ⟨1⟩, .nil), (.symbol ⟨2⟩, .nil)] := by
  simp [sample, pairs, Pairs.ofSymbols, Pairs.ofList, Pairs.put, Value.eql_symbol]

def sampleMethods : Methods Nat :=
  .selecting sample.object sample.hash [(.symbol ⟨1⟩, .nil), (.symbol ⟨2⟩, .nil)]

theorem sampleMethods_honours : sample.HonouredBy sampleMethods id := by
  have honours := sample.selecting_honours
  rw [sample_pairs] at honours
  exact honours

/-- A host that leaves it to the values to open themselves. -/
def sampleHost : Host Nat := (Host.reading .nil).withOwnBehaviour .new sampleMethods

theorem sample_meets {v : Value} (met : sampleHost.Meets sample.Root v) :
    sample.Root v ∨ v = .nil := by
  have nils : ∀ entry ∈ sample.pairs, entry.2 = .nil := by
    rw [sample_pairs]
    simp
  induction met with
  | root hv => exact .inl hv
  | item inside answer hu ih =>
    rcases ih with (rfl | rfl) | rfl <;> cases answer
  | @entry v requested m pair w w' inside answer hp ih =>
    rcases ih with (rfl | rfl) | rfl
    · rw [sample_pairs] at nils
      cases requested with
      | none =>
        cases answer
        exact .inr (nils _ hp)
      | some keys =>
        cases answer
        exact .inr (nils _ (Pairs.mem_restrict.1 hp).1)
    · cases answer
      exact .inr (nils _ hp)
    · cases answer

theorem sample_alone : sample.Alone sampleHost := by
  intro v met
  rcases sample_meets met with (rfl | rfl) | rfl
  · exact ⟨fun _ => rfl, nofun⟩
  · exact ⟨nofun, fun _ => rfl⟩
  · exact ⟨nofun, nofun⟩

end StandIn

/-- The object is matched by a closed pattern with one of the two keys, as the hash is without the
rest; the closed pattern never matches the hash. -/
theorem closed_pattern_on_object_sample :
    let e : Engine Nat := ⟨StandIn.sampleHost, .new, ⟨.uncached, true⟩⟩
    let p : HashRest → Pattern := fun rest => .hash ⟨[(⟨1⟩, .wildcard)], rest⟩
    (e.silent.matchValue (p .closed) StandIn.sample.value ⟨.empty, 0⟩).1 =
      (e.silent.matchValue (p .absent) StandIn.sample.original ⟨.empty, 0⟩).1 ∧
    ∀ b, (e.silent.matchValue (p .closed) StandIn.sample.original ⟨.empty, 0⟩).1 ≠ .matched b := by
  intro e p
  obtain ⟨⟨same, -⟩, -, refused⟩ := e.closed_pattern_on_object nofun _ (fun _ _ => rfl)
    StandIn.sample id StandIn.sampleMethods_honours StandIn.sample_alone (.whole _ _)
    [(⟨1⟩, .wildcard)] (List.nodup_singleton _) ⟨.empty, 0⟩
  refine ⟨same, refused ⟨(.symbol ⟨2⟩, .nil), ?_, ?_⟩⟩
  · rw [StandIn.sample_pairs]
    exact List.mem_cons_of_mem _ List.mem_cons_self
  · intro n hn symbol
    obtain rfl := List.mem_singleton.1 hn
    cases symbol

/-- The hash has a key that the pattern does not name. The object that stands in for it is matched
all the same. -/
theorem closed_pattern_overlooks_key :
    let d := StandIn.sample
    let e : Engine Nat := ⟨StandIn.sampleHost, .new, ⟨.uncached, true⟩⟩
    let p : Pattern := .hash ⟨[(⟨1⟩, .wildcard)], .closed⟩
    d.HonouredBy StandIn.sampleMethods id ∧
    (∀ v requested, e.host.deconstructKeys v requested =
      ExceptT.lift (v.deconstructKeys StandIn.sampleMethods requested)) ∧
    e.matchValue p d.value ⟨.empty, 0⟩ = (.matched .empty, ⟨.empty, 0⟩) ∧
    e.matchValue p d.original ⟨.empty, 0⟩ = (.unmatched, ⟨.empty, 0⟩) := by
  intro d e p
  refine ⟨StandIn.sampleMethods_honours, fun _ _ => rfl, rfl, ?_⟩
  rw [StandIn.original, StandIn.sample_pairs]
  rfl

end PatternDispatch
