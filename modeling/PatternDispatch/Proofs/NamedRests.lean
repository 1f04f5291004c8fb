import PatternDispatch.Proofs.ClosedHashes
import PatternDispatch.Proofs.InsertedPairs

/-! Named rests of hash patterns. The pairs that no entry names are inserted into a new hash one by
one. No key of a hash equals a later one, and this is left so when pairs are taken out; hence none
of them overwrites another, even where a key does not equal itself or equality cannot be chained. -/
namespace PatternDispatch

namespace Pairs

variable {ps : Pairs} {keys : List Name} {entry : Value × Value}

theorem mem_otherPairs :
    entry ∈ Engine.otherPairs keys ps ↔ entry ∈ ps ∧ ∀ n ∈ keys, entry.1 ≠ .symbol n := by
  rw [Engine.otherPairs, List.mem_filter]
  refine and_congr_right fun _ => ?_
  cases found : entry.1.symbol? with
  | none =>
    have other (n : Name) : entry.1 ≠ .symbol n := by
      intro same
      cases found.symm.trans (Value.symbol?_eq_some.2 same)
    simp [other]
  | some m =>
    have same := Value.symbol?_eq_some.1 found
    simp only [same, Option.any_some, Bool.not_eq_true', List.contains_eq_mem,
      decide_eq_false_iff_not, ne_eq, Value.symbol.injEq]
    constructor
    · rintro absent n named rfl
      exact absent named
    · intro other named
      exact other m named rfl

theorem Distinct.otherPairs (distinct : ps.Distinct) (keys : List Name) :
    Distinct (Engine.otherPairs keys ps) :=
  List.Pairwise.sublist List.filter_sublist distinct

end Pairs

namespace Engine

variable {σ : Type} {e : Engine σ} {entries : List (Name × Pattern)} {s s₁ s' : MatchState σ}

/-- A hash pattern that has matched has matched all its entries, and then its rest. -/
theorem matched_of_matchHash {p : HashPattern} {v : Value} {m : Mapping}
    (asked : e.mapping p v s = (.ok (.supported m), s₁))
    (matched : e.matchHash p v s = (.ok true, s')) :
    ∃ s₂, e.matchEntries p.entries m.pairs s₁ = (.ok true, s₂) ∧
      e.matchRest p m.pairs s₂ = (.ok true, s') := by
  obtain ⟨entries, rest⟩ := p
  rw [matchHash] at matched
  exact HostM.both_eq_true.1 ((HostM.bind_of_ok asked _).symm.trans matched)

theorem matchRest_named (e : Engine σ) (entries : List (Name × Pattern)) (t : BindTarget)
    (pairs : Pairs) (s : MatchState σ) :
    let p : HashPattern := ⟨entries, .named t⟩
    let (id, world) := e.host.fresh s.session.world
    e.matchRest p pairs s = (.ok true, ⟨s.session.withWorld world,
      s.bindings.push t (.hash id (Pairs.ofList (otherPairs p.keys pairs))), s.cache⟩) := rfl

/-- A named rest is bound to a new hash of all pairs that no entry names: each as often as it is
there, with its own key and value, and in their order. -/
theorem named_rest_is_exact (e : Engine σ) (entries : List (Name × Pattern)) (t : BindTarget)
    (v : Value) (id : Identity) (inserted : List (Value × Value)) {s s₁ s' : MatchState σ}
    (asked : e.mapping ⟨entries, .named t⟩ v s = (.ok (.supported ⟨id, .ofList inserted⟩), s₁))
    (matched : e.matchHash ⟨entries, .named t⟩ v s = (.ok true, s')) :
    let keys := entries.map Prod.fst
    let pairs := Pairs.ofList inserted
    ∃ s₂ rest, e.matchEntries entries pairs s₁ = (.ok true, s₂) ∧
      s'.bindings = s₂.bindings.push t (.hash (e.host.fresh s₂.session.world).1 rest) ∧
      rest = pairs.filter (fun entry => !entry.1.symbol?.any keys.contains) ∧
      (∀ entry, entry ∈ rest ↔ entry ∈ pairs ∧ ∀ n ∈ keys, entry.1 ≠ .symbol n) ∧
      Pairs.Distinct rest ∧ rest.length + keys.dedup.length = pairs.length := by
  intro keys pairs
  obtain ⟨s₂, entered, last⟩ := matched_of_matchHash asked matched
  have kept : Pairs.ofList (otherPairs keys pairs) = otherPairs keys pairs :=
    Pairs.ofList_of_distinct ((Pairs.ofList_distinct inserted).otherPairs keys)
  have bound : s'.bindings = s₂.bindings.push t
      (.hash (e.host.fresh s₂.session.world).1 (Pairs.ofList (otherPairs keys pairs))) := by
    cases (e.matchRest_named entries t pairs s₂).symm.trans last
    rfl
  have counted : pairs.length = keys.dedup.length + (otherPairs keys pairs).length :=
    Pairs.length_eq_of_present (Pairs.symbolKeys_ofList_nodup inserted)
      (present_of_matchEntries entered)
  rw [kept] at bound
  refine ⟨s₂, otherPairs keys pairs, entered, bound, rfl, fun entry => Pairs.mem_otherPairs,
    (Pairs.ofList_distinct inserted).otherPairs keys, ?_⟩
  omega

end Engine

/-- A key that is written twice, and a mapping into which a text and a range from no number go
besides. The range does not equal itself, so it is there twice, in the rest as well. -/
theorem named_rest_is_exact_sample :
    let e : Engine Nat := ⟨.reading .nil, .new, ⟨.uncached, true⟩⟩
    let range : Value := .range (some (.float ⟨0x7ff8000000000000⟩)) none false
    let inserted : List (Value × Value) :=
      [(.str "a", .nil), (.symbol ⟨1⟩, .nil), (range, .nil), (range, .bool true)]
    let p : HashPattern := ⟨[(⟨1⟩, .wildcard), (⟨1⟩, .wildcard)], .named (.localVar ⟨2⟩)⟩
    let s : MatchState Nat := ⟨⟨.empty, 3⟩, .empty, .empty⟩
    (e.matchHash p (.hash ⟨0⟩ (Pairs.ofList inserted)) s).2.bindings.toList =
      [(.localVar ⟨2⟩, .hash ⟨3⟩ [(.str "a", .nil), (range, .nil), (range, .bool true)])] := by
  intro e range inserted p s
  have distinct : Pairs.Distinct inserted := by decide +kernel
  have kept : Pairs.ofList inserted = inserted := Pairs.ofList_of_distinct distinct
  obtain ⟨s', matched⟩ : ∃ s', e.matchHash p (.hash ⟨0⟩ (Pairs.ofList inserted)) s =
      (.ok true, s') := by
    rw [kept]
    exact ⟨_, rfl⟩
  obtain ⟨s₂, rest, entered, bound, filtered, -⟩ :=
    e.named_rest_is_exact p.entries (.localVar ⟨2⟩) _ ⟨0⟩ inserted rfl matched
  rw [kept] at entered filtered
  cases entered
  rw [matched, bound, filtered]
  rfl

end PatternDispatch
