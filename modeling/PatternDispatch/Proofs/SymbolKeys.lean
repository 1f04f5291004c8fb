import Mathlib.Data.List.Dedup
import PatternDispatch.Matching

/-! The symbols among the keys of a hash. Pairs are inserted one by one, so a symbol is a key once
at most. What is found under a symbol does not depend on the order of the pairs, and the pairs that
a pattern names can be counted by their keys. -/
namespace PatternDispatch

namespace Value

theorem symbol?_eq_some {k : Value} {n : Name} : k.symbol? = some n ↔ k = .symbol n := by
  cases k <;> simp [symbol?]

/-- Symbols are the same key if they are the same name. -/
theorem eql_symbol (m n : Name) : (Value.symbol m).eql (.symbol n) = (m == n) := by
  unfold eql
  unfold beq
  rfl

end Value

namespace Pairs

/-- The symbols among the keys, in their order. -/
def symbolKeys (ps : Pairs) : List Name := ps.filterMap fun entry => entry.1.symbol?

/-- The pairs whose key is a symbol among the given ones. -/
def restrict (keys : List Name) (ps : Pairs) : Pairs :=
  ps.filter fun entry => entry.1.symbol?.any keys.contains

variable {ps qs : Pairs} {keys : List Name} {n : Name} {v : Value} {entry : Value × Value}

theorem mem_symbolKeys : n ∈ ps.symbolKeys ↔ ∃ v, (.symbol n, v) ∈ ps := by
  simp only [symbolKeys, List.mem_filterMap, Value.symbol?_eq_some]
  constructor
  · rintro ⟨⟨k, v⟩, inside, rfl⟩
    exact ⟨v, inside⟩
  · rintro ⟨v, inside⟩
    exact ⟨_, inside, rfl⟩

theorem symbolKeys_cons (entry : Value × Value) (ps : Pairs) :
    symbolKeys (entry :: ps) = entry.1.symbol?.toList ++ ps.symbolKeys := by
  cases found : entry.1.symbol? with
  | none => simp [symbolKeys, found]
  | some n => simp [symbolKeys, found]

theorem mem_of_getSymbol? (found : ps.getSymbol? n = some v) : (.symbol n, v) ∈ ps := by
  obtain ⟨⟨k, u⟩, here, rfl⟩ := Option.map_eq_some_iff.1 found
  have symbol : k = .symbol n := Value.symbol?_eq_some.1 (by simpa using List.find?_some here)
  exact symbol ▸ List.mem_of_find?_eq_some here

theorem getSymbol?_isSome : (ps.getSymbol? n).isSome = true ↔ n ∈ ps.symbolKeys := by
  simp [getSymbol?, symbolKeys, List.find?_isSome]

/-- Where no symbol is a key twice, a symbol has the value that it is paired with. -/
theorem getSymbol?_eq_some (distinct : ps.symbolKeys.Nodup) :
    ps.getSymbol? n = some v ↔ (.symbol n, v) ∈ ps := by
  constructor
  · exact mem_of_getSymbol?
  intro inside
  induction ps with
  | nil => cases inside
  | cons entry ps ih =>
    rw [symbolKeys_cons] at distinct
    by_cases here : entry.1 = .symbol n
    · have absent : n ∉ symbolKeys ps := by
        have apart := List.disjoint_of_nodup_append distinct
        exact apart (by simp [here, Value.symbol?])
      rcases List.mem_cons.1 inside with rfl | later
      · simp [getSymbol?, Value.symbol?]
      · exact absurd (mem_symbolKeys.2 ⟨v, later⟩) absent
    · have later : (.symbol n, v) ∈ ps := by
        rcases List.mem_cons.1 inside with rfl | later
        · exact absurd rfl here
        · exact later
      have passed : getSymbol? (entry :: ps) n = getSymbol? ps n := by
        have other : (entry.1.symbol? == some n) = false := by
          simpa [Value.symbol?_eq_some] using here
        simp [getSymbol?, other]
      rw [passed]
      exact ih distinct.of_append_right later

/-- The order of the pairs does not matter, nor do the pairs under other keys. -/
theorem getSymbol?_congr (hp : ps.symbolKeys.Nodup) (hq : qs.symbolKeys.Nodup)
    (same : ∀ v, (.symbol n, v) ∈ ps ↔ (.symbol n, v) ∈ qs) :
    ps.getSymbol? n = qs.getSymbol? n := by
  ext v
  rw [getSymbol?_eq_some hp, getSymbol?_eq_some hq]
  exact same v

/-- An insertion leaves the symbols as they are, or adds a new one at the end. -/
theorem symbolKeys_put (ps : Pairs) (k v : Value) :
    (put ps k v).symbolKeys = ps.symbolKeys ∨
      ∃ n, k = .symbol n ∧ n ∉ ps.symbolKeys ∧ (put ps k v).symbolKeys = ps.symbolKeys ++ [n] := by
  induction ps with
  | nil =>
    cases found : k.symbol? with
    | none => exact .inl (by simp [put, symbolKeys, found])
    | some n =>
      refine .inr ⟨n, Value.symbol?_eq_some.1 found, by simp [symbolKeys], ?_⟩
      simp [put, symbolKeys, found]
  | cons entry ps ih =>
    obtain ⟨k', v'⟩ := entry
    by_cases same : k'.eql k = true
    · have overwritten : put ((k', v') :: ps) k v = (k', v) :: ps := by simp [put, same]
      exact .inl (by rw [overwritten, symbolKeys_cons, symbolKeys_cons])
    · have passed : put ((k', v') :: ps) k v = (k', v') :: put ps k v := by simp [put, same]
      rw [passed, symbolKeys_cons, symbolKeys_cons]
      rcases ih with kept | ⟨n, rfl, absent, added⟩
      · exact .inl (by rw [kept])
      · have other : k'.symbol? ≠ some n := by
          intro found
          obtain rfl := Value.symbol?_eq_some.1 found
          rw [Value.eql_symbol] at same
          exact same (beq_self_eq_true n)
        refine .inr ⟨n, rfl, ?_, by rw [added, List.append_assoc]⟩
        simp [absent, other]

theorem symbolKeys_ofList_nodup (ps : List (Value × Value)) : (ofList ps).symbolKeys.Nodup := by
  suffices ∀ m : Pairs, m.symbolKeys.Nodup →
      (ps.foldl (fun m p => put m p.1 p.2) m).symbolKeys.Nodup from this [] List.nodup_nil
  induction ps with
  | nil => exact fun m hm => hm
  | cons p ps ih =>
    intro m hm
    refine ih _ ?_
    rcases symbolKeys_put m p.1 p.2 with kept | ⟨n, -, absent, added⟩
    · rw [kept]
      exact hm
    · rw [added]
      exact List.nodup_append'.2 ⟨hm, List.nodup_singleton n, by simpa using absent⟩

theorem mem_put {k : Value} (inside : entry ∈ put ps k v) :
    entry.1 = k ∨ ∃ old ∈ ps, old.1 = entry.1 := by
  induction ps with
  | nil =>
    rw [put, List.mem_singleton] at inside
    exact .inl (congrArg Prod.fst inside)
  | cons old ps ih =>
    rw [put] at inside
    split at inside
    · rcases List.mem_cons.1 inside with rfl | later
      · exact .inr ⟨old, List.mem_cons_self, rfl⟩
      · exact .inr ⟨entry, List.mem_cons_of_mem _ later, rfl⟩
    · rcases List.mem_cons.1 inside with rfl | later
      · exact .inr ⟨old, List.mem_cons_self, rfl⟩
      · exact (ih later).imp id fun ⟨other, there, same⟩ =>
          ⟨other, List.mem_cons_of_mem _ there, same⟩

/-- Inserting pairs with symbol keys leaves no other keys. -/
theorem ofSymbols_symbols (fs : List (Name × Value)) :
    ∀ entry ∈ ofSymbols fs, ∃ n, entry.1 = .symbol n := by
  suffices ∀ m : Pairs, (∀ entry ∈ m, ∃ n, entry.1 = .symbol n) →
      ∀ entry ∈ (fs.map fun f => (Value.symbol f.1, f.2)).foldl (fun m p => put m p.1 p.2) m,
        ∃ n, entry.1 = .symbol n from this [] (by simp)
  induction fs with
  | nil => exact fun m hm => hm
  | cons f fs ih =>
    intro m hm
    have more : ∀ entry ∈ put m (.symbol f.1) f.2, ∃ n, entry.1 = .symbol n := by
      intro entry he
      rcases mem_put he with same | ⟨old, there, same⟩
      · exact ⟨f.1, same⟩
      · rw [← same]
        exact hm old there
    exact ih (put m (.symbol f.1) f.2) more

theorem mem_restrict :
    entry ∈ restrict keys ps ↔ entry ∈ ps ∧ ∃ n ∈ keys, entry.1 = .symbol n := by
  simp only [restrict, List.mem_filter, Option.any_eq_true, Value.symbol?_eq_some,
    List.contains_iff_mem]
  exact and_congr_right fun _ => exists_congr fun n => and_comm

/-- There are no other pairs if every key is a symbol among the given ones. -/
theorem otherPairs_eq_nil :
    Engine.otherPairs keys ps = [] ↔ ∀ entry ∈ ps, ∃ n ∈ keys, entry.1 = .symbol n := by
  simp only [Engine.otherPairs, List.filter_eq_nil_iff, Bool.not_eq_true', Bool.not_eq_false,
    Option.any_eq_true, Value.symbol?_eq_some, List.contains_iff_mem]
  exact forall₂_congr fun entry _ => exists_congr fun n => and_comm

theorem symbolKeys_restrict (keys : List Name) (ps : Pairs) :
    (restrict keys ps).symbolKeys = ps.symbolKeys.filter keys.contains := by
  induction ps with
  | nil => rfl
  | cons entry ps ih =>
    rw [symbolKeys_cons, List.filter_append, ← ih]
    cases found : entry.1.symbol? with
    | none => simp [restrict, found]
    | some n =>
      cases named : keys.contains n with
      | true => simp_all [restrict, symbolKeys_cons]
      | false => simp_all [restrict]

/-- Among the pairs that a pattern may name, each has a symbol for a key. -/
theorem length_restrict (keys : List Name) (ps : Pairs) :
    (restrict keys ps).symbolKeys.length = (restrict keys ps).length := by
  refine List.filterMap_length_eq_length.2 fun entry inside => ?_
  obtain ⟨n, -, same⟩ := (mem_restrict.1 inside).2
  simp [same, Value.symbol?]

/-- The pairs that are named, each once, and all others. -/
theorem length_eq_of_present (distinct : ps.symbolKeys.Nodup)
    (present : ∀ n ∈ keys, n ∈ ps.symbolKeys) :
    ps.length = keys.dedup.length + (Engine.otherPairs keys ps).length := by
  have named : (restrict keys ps).symbolKeys.Perm keys.dedup := by
    rw [symbolKeys_restrict]
    refine (List.perm_ext_iff_of_nodup (distinct.filter _) keys.nodup_dedup).2 fun n => ?_
    rw [List.mem_filter, List.mem_dedup, List.contains_iff_mem]
    exact ⟨And.right, fun here => ⟨present n here, here⟩⟩
  rw [← named.length_eq, length_restrict]
  exact List.length_eq_length_filter_add _

end Pairs

end PatternDispatch
