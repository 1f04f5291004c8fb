import PatternDispatch.Proofs.CacheTransparency
import PatternDispatch.Proofs.InsertedPairs
import PatternDispatch.Proofs.SymbolKeys

/-! Closed hash patterns. After all entries have matched, a closed pattern compares sizes: the pairs
of the mapping with its own entries. As long as no key is written twice, this says that the mapping
has no other keys. A key that is written twice makes room for a pair that the pattern does not name,
and without such a pair there is no match. -/
namespace PatternDispatch

namespace Engine

variable {σ : Type} {e : Engine σ} {entries : List (Name × Pattern)} {s s' : MatchState σ}

/-- Entries that have all matched were all there. -/
theorem present_of_matchEntries {pairs : Pairs}
    (h : e.matchEntries entries pairs s = (.ok true, s')) :
    ∀ n ∈ entries.map Prod.fst, n ∈ pairs.symbolKeys := by
  induction entries generalizing s with
  | nil => simp
  | cons entry entries ih =>
    obtain ⟨n, p⟩ := entry
    simp only [matchEntries] at h
    cases found : pairs.getSymbol? n with
    | none =>
      rw [found] at h
      cases h
    | some v =>
      rw [found] at h
      have here : n ∈ pairs.symbolKeys := Pairs.getSymbol?_isSome.1 (by rw [found]; rfl)
      simp only [List.map_cons, List.forall_mem_cons]
      obtain ⟨t, -, later⟩ := HostM.both_eq_true.1 h
      exact ⟨here, ih later⟩

/-- The last step of a closed pattern: only the sizes are compared. -/
theorem matchHash_closed {v : Value} {m : Mapping} {t : MatchState σ}
    (asked : e.mapping ⟨entries, .closed⟩ v s = (.ok (.supported m), t))
    (entered : e.matchEntries entries m.pairs t = (.ok true, s')) :
    e.matchHash ⟨entries, .closed⟩ v s = (.ok (m.pairs.length == entries.length), s') := by
  rw [matchHash]
  refine (HostM.bind_of_ok asked _).trans ?_
  exact HostM.bind_of_ok entered _

/-- All entries of a closed pattern are there and match. Then it accepts the mapping if there are as
many pairs with other keys as the pattern repeats keys, and only then. So without repeated keys it
accepts exactly the mappings whose keys are symbols that it names. -/
theorem closed_hash_accepts (e : Engine σ) (entries : List (Name × Pattern)) (v : Value)
    (id : Identity) (inserted : List (Value × Value)) {s s₁ s₂ : MatchState σ}
    (asked : e.mapping ⟨entries, .closed⟩ v s = (.ok (.supported ⟨id, .ofList inserted⟩), s₁))
    (entered : e.matchEntries entries (.ofList inserted) s₁ = (.ok true, s₂)) :
    let p : HashPattern := ⟨entries, .closed⟩
    let pairs := Pairs.ofList inserted
    ∃ accepted, e.matchHash p v s = (.ok accepted, s₂) ∧
      (accepted = true ↔
        p.keys.dedup.length + (otherPairs p.keys pairs).length = p.keys.length) ∧
      (p.keys.Nodup → (accepted = true ↔ ∀ entry ∈ pairs, ∃ n ∈ p.keys, entry.1 = .symbol n)) := by
  intro p pairs
  have present : ∀ n ∈ p.keys, n ∈ pairs.symbolKeys := present_of_matchEntries entered
  have counted : pairs.length = p.keys.dedup.length + (otherPairs p.keys pairs).length :=
    Pairs.length_eq_of_present (Pairs.symbolKeys_ofList_nodup inserted) present
  have size : p.keys.length = entries.length := List.length_map _
  have sizes : (pairs.length == entries.length) = true ↔
      p.keys.dedup.length + (otherPairs p.keys pairs).length = p.keys.length := by
    rw [beq_iff_eq, counted, size]
  refine ⟨_, matchHash_closed asked entered, sizes, fun distinct => ?_⟩
  have none : (otherPairs p.keys pairs).length = 0 ↔
      ∀ entry ∈ pairs, ∃ n ∈ p.keys, entry.1 = .symbol n := by
    rw [List.length_eq_zero_iff, Pairs.otherPairs_eq_nil]
  rw [sizes, ← none, distinct.dedup]
  omega

end Engine

/-- Two keys: a hash of both is accepted, in whatever order, and refused once it has a text for a key
as well. -/
theorem closed_hash_accepts_sample :
    let e : Engine Nat := ⟨.reading .nil, .new, ⟨.uncached, true⟩⟩
    let p : HashPattern := ⟨[(⟨1⟩, .wildcard), (⟨2⟩, .binding (.localVar ⟨5⟩))], .closed⟩
    let start : MatchState Nat := ⟨⟨.empty, 0⟩, .empty, .empty⟩
    let both : Pairs := [(.symbol ⟨2⟩, .bool true), (.symbol ⟨1⟩, .nil)]
    let more : Pairs := both ++ [(.str "c", .nil)]
    (e.matchHash p (.hash ⟨0⟩ (Pairs.ofList both)) start).1 = .ok true ∧
      (e.matchHash p (.hash ⟨0⟩ (Pairs.ofList more)) start).1 = .ok false := by
  intro e p start both more
  let after : MatchState Nat := { start with cache := start.cache.countMapping }
  have judged (pairs : Pairs) (distinct : pairs.Distinct)
      (entered : ∃ s, e.matchEntries p.entries pairs after = (.ok true, s)) :
      ∃ accepted, (e.matchHash p (.hash ⟨0⟩ (Pairs.ofList pairs)) start).1 = .ok accepted ∧
        (accepted = true ↔ ∀ entry ∈ pairs, ∃ n ∈ p.keys, entry.1 = .symbol n) := by
    have stored : Pairs.ofList pairs = pairs := Pairs.ofList_of_distinct distinct
    have asked : e.mapping p (.hash ⟨0⟩ (Pairs.ofList pairs)) start =
        (.ok (.supported ⟨⟨0⟩, Pairs.ofList pairs⟩), after) := rfl
    obtain ⟨s, entered⟩ := entered
    rw [← stored] at entered
    obtain ⟨accepted, ended, -, exactly⟩ :=
      e.closed_hash_accepts p.entries _ ⟨0⟩ pairs asked entered
    rw [stored] at exactly
    exact ⟨accepted, congrArg Prod.fst ended, exactly (by decide)⟩
  obtain ⟨accepted, ended, named⟩ := judged both (by decide +kernel) ⟨_, rfl⟩
  obtain ⟨refused, ended', foreign⟩ := judged more (by decide +kernel) ⟨_, rfl⟩
  have yes : accepted = true := by
    apply named.2
    intro entry inside
    rcases List.mem_pair.1 inside with rfl | rfl
    · exact ⟨⟨2⟩, by decide, rfl⟩
    · exact ⟨⟨1⟩, by decide, rfl⟩
  have no : refused = false := by
    rw [← Bool.not_eq_true]
    intro all
    obtain ⟨n, -, symbol⟩ := foreign.1 all (.str "c", .nil) (List.mem_append_right both (.head _))
    cases symbol
  rw [ended, ended', yes, no]
  exact ⟨rfl, rfl⟩

/-- A key that is written twice: the hash with this key alone is refused, and one with another key
besides is accepted. -/
theorem closed_hash_repeats_key :
    let e : Engine Nat := ⟨.reading .nil, .new, ⟨.uncached, true⟩⟩
    let p : Pattern := .hash ⟨[(⟨1⟩, .wildcard), (⟨1⟩, .wildcard)], .closed⟩
    e.matchValue p (.hash ⟨0⟩ (Pairs.ofList [(.symbol ⟨1⟩, .nil)])) ⟨.empty, 0⟩ =
      (.unmatched, ⟨.empty, 0⟩) ∧
    e.matchValue p (.hash ⟨0⟩ (Pairs.ofList [(.symbol ⟨1⟩, .nil), (.symbol ⟨2⟩, .nil)]))
      ⟨.empty, 0⟩ = (.matched .empty, ⟨.empty, 0⟩) := by
  intro e p
  have two : Pairs.ofList [(.symbol ⟨1⟩, .nil), (.symbol ⟨2⟩, .nil)] =
      [(.symbol ⟨1⟩, .nil), (.symbol ⟨2⟩, .nil)] := Pairs.ofList_of_distinct (by decide +kernel)
  rw [two]
  exact ⟨rfl, rfl⟩

end PatternDispatch
