import Mathlib.Data.Fintype.EquivFin
import PatternDispatch.Proofs.EqualValues

/-! The pairs of a hash that has been filled by insertion. No stored key equals a later one, so as
long as key equality goes both ways and can be chained, a key is found in one place only. Then two
hashes of the same size in which every pair of the one has its like in the other have the same pairs
up to order: no two pairs have the same like, and so nothing on the other side is left over. -/
namespace PatternDispatch

/-- Among some keys, key equality goes both ways and can be chained. -/
structure Value.KeysAgree (K : Value → Prop) : Prop where
  symm {a b : Value} (ha : K a) (hb : K b) (h : a.eql b = true) : b.eql a = true
  trans {a b c : Value} (ha : K a) (hb : K b) (hc : K c) (h : a.eql b = true)
    (h' : b.eql c = true) : a.eql c = true

/-- Keys that are told apart have different likes among other keys. -/
theorem Value.KeysAgree.injective_of_likes {K : Value → Prop} (keys : KeysAgree K) {n m : Nat}
    {key : Fin n → Value} {key' : Fin m → Value} (hkey : ∀ i, K (key i)) (hkey' : ∀ j, K (key' j))
    (apart : ∀ i i', i < i' → (key i).eql (key i') = false) {like : Fin n → Fin m}
    (same : ∀ i, (key' (like i)).eql (key i) = true) : Function.Injective like := by
  have different : ∀ i i', i < i' → like i ≠ like i' := by
    intro i i' before one
    have back := keys.symm (hkey' _) (hkey i) (same i)
    have chained := keys.trans (hkey i) (hkey' (like i)) (hkey i') back (one ▸ same i')
    cases chained.symm.trans (apart i i' before)
  intro i i' one
  rcases lt_trichotomy i i' with before | here | after
  · exact absurd one (different i i' before)
  · exact here
  · exact absurd one.symm (different i' i after)

namespace Pairs

/-- No stored key equals a later one. -/
def Distinct (ps : Pairs) : Prop := ps.Pairwise fun p q => p.1.eql q.1 = false

instance (ps : Pairs) : Decidable ps.Distinct :=
  inferInstanceAs (Decidable (ps.Pairwise fun p q => p.1.eql q.1 = false))

/-- Every pair on the right has its like on the left. -/
def Includes (ps qs : Pairs) : Prop :=
  ∀ q ∈ qs, ∃ p ∈ ps, p.1.eql q.1 = true ∧ p.2.beq q.2 = true

variable {ps qs rs : Pairs} {k v : Value}

/-- An insertion overwrites the value of the first equal key, or else adds a pair at the end. -/
theorem put_cases (ps : Pairs) (k v : Value) :
    (∃ before k' old after, ps = before ++ (k', old) :: after ∧
      (∀ p ∈ before, p.1.eql k = false) ∧ k'.eql k = true ∧
      put ps k v = before ++ (k', v) :: after) ∨
    (∀ p ∈ ps, p.1.eql k = false) ∧ put ps k v = ps ++ [(k, v)] := by
  induction ps with
  | nil => exact .inr ⟨by simp, rfl⟩
  | cons p ps ih =>
    obtain ⟨k', v'⟩ := p
    cases same : k'.eql k with
    | true => exact .inl ⟨[], k', v', ps, rfl, by simp, same, by simp [put, same]⟩
    | false =>
      have passed : put ((k', v') :: ps) k v = (k', v') :: put ps k v := by simp [put, same]
      rcases ih with ⟨before, l, old, after, rfl, first, found, overwritten⟩ | ⟨absent, added⟩
      · refine .inl ⟨(k', v') :: before, l, old, after, rfl, ?_, found, ?_⟩
        · exact List.forall_mem_cons.2 ⟨same, first⟩
        · rw [passed, overwritten, List.cons_append]
      · refine .inr ⟨List.forall_mem_cons.2 ⟨same, absent⟩, ?_⟩
        rw [passed, added, List.cons_append]

theorem put_distinct (distinct : ps.Distinct) (k v : Value) : (put ps k v).Distinct := by
  rcases put_cases ps k v with ⟨before, k', old, after, rfl, -, -, overwritten⟩ | ⟨absent, added⟩
  · rw [overwritten]
    simpa only [Distinct, List.pairwise_append, List.pairwise_cons, List.forall_mem_cons]
      using distinct
  · rw [added]
    refine List.pairwise_append.2 ⟨distinct, List.pairwise_singleton _ _, fun p hp q hq => ?_⟩
    obtain rfl := List.mem_singleton.1 hq
    exact absent p hp

theorem ofList_distinct (entries : List (Value × Value)) : (ofList entries).Distinct := by
  suffices ∀ m : Pairs, m.Distinct → (entries.foldl (fun m p => put m p.1 p.2) m).Distinct from
    this [] List.Pairwise.nil
  induction entries with
  | nil => exact fun m hm => hm
  | cons entry entries ih => exact fun m hm => ih _ (put_distinct hm entry.1 entry.2)

/-- A key that no stored key equals goes to the end. -/
theorem put_of_absent (absent : ∀ p ∈ ps, p.1.eql k = false) : put ps k v = ps ++ [(k, v)] := by
  rcases put_cases ps k v with ⟨before, k', old, after, rfl, -, found, -⟩ | ⟨-, added⟩
  · cases found.symm.trans (absent (k', old) (List.mem_append_right _ (.head _)))
  · exact added

theorem ofList_concat (entries : List (Value × Value)) (entry : Value × Value) :
    ofList (entries ++ [entry]) = (ofList entries).put entry.1 entry.2 :=
  List.foldl_append

/-- Pairs with distinct keys are left as they are by inserting them one by one. -/
theorem ofList_of_distinct (distinct : ps.Distinct) : ofList ps = ps := by
  induction ps using List.reverseRecOn with
  | nil => rfl
  | append_singleton ps p ih =>
    obtain ⟨first, -, apart⟩ := List.pairwise_append.1 distinct
    rw [ofList_concat, ih first]
    exact put_of_absent fun q hq => apart q hq p (.head _)

theorem mem_of_get? (found : ps.get? k = some v) : ∃ p ∈ ps, p.1.eql k = true ∧ p.2 = v := by
  obtain ⟨p, here, rfl⟩ := Option.map_eq_some_iff.1 found
  have equal := List.find?_some here
  exact ⟨p, List.mem_of_find?_eq_some here, equal, rfl⟩

/-- A key that equals itself finds what has been stored under it last. -/
theorem get?_put_self (self : k.eql k = true) : (ps.put k v).get? k = some v := by
  induction ps with
  | nil => simp [put, get?, self]
  | cons p ps ih =>
    cases here : p.1.eql k with
    | true => simp [put, get?, here]
    | false =>
      rw [get?] at ih ⊢
      simpa [put, here] using ih

variable {K : Value → Prop} (keys : Value.KeysAgree K)

include keys

/-- What is stored under another key changes nothing for a key. -/
theorem get?_put_of_ne {k' : Value} (hp : ∀ p ∈ ps, K p.1) (hk : K k) (hk' : K k')
    (apart : k'.eql k = false) : (ps.put k' v).get? k = ps.get? k := by
  induction ps with
  | nil => simp [put, get?, apart]
  | cons p ps ih =>
    rw [List.forall_mem_cons] at hp
    have later := ih hp.2
    rw [get?, get?] at later ⊢
    cases here : p.1.eql k' with
    | true =>
      have other : p.1.eql k = false := by
        rw [Bool.eq_false_iff]
        intro found
        have chained := keys.trans hk' hp.1 hk (keys.symm hp.1 hk' here) found
        cases chained.symm.trans apart
      simp [put, here, other]
    | false =>
      cases found : p.1.eql k with
      | true => simp [put, here, found]
      | false => simpa [put, here, found] using later

/-- Keys of one hash that are equal are one. -/
theorem Distinct.unique (distinct : ps.Distinct) (inK : ∀ p ∈ ps, K p.1) {p q : Value × Value}
    (hp : p ∈ ps) (hq : q ∈ ps) (equal : p.1.eql q.1 = true) : p = q := by
  obtain ⟨i, hi, rfl⟩ := List.mem_iff_getElem.1 hp
  obtain ⟨j, hj, rfl⟩ := List.mem_iff_getElem.1 hq
  have apart := List.pairwise_iff_getElem.1 distinct
  rcases lt_trichotomy i j with before | rfl | after
  · cases equal.symm.trans (apart i j hi hj before)
  · rfl
  · have back := keys.symm (inK _ hp) (inK _ hq) equal
    cases back.symm.trans (apart j i hj hi after)

/-- A key is found in one place only. -/
theorem get?_eq_some (distinct : ps.Distinct) (hp : ∀ p ∈ ps, K p.1) (hk : K k) :
    ps.get? k = some v ↔ ∃ p ∈ ps, p.1.eql k = true ∧ p.2 = v := by
  constructor
  · exact mem_of_get?
  rintro ⟨p, inside, equal, rfl⟩
  induction ps with
  | nil => cases inside
  | cons q ps ih =>
    obtain ⟨apart, distinct⟩ := List.pairwise_cons.1 distinct
    rw [List.forall_mem_cons] at hp
    cases here : q.1.eql k with
    | true =>
      rcases List.mem_cons.1 inside with rfl | later
      · simp [get?, here]
      · have hkp := keys.symm (hp.2 p later) hk equal
        have hqp := keys.trans hp.1 hk (hp.2 p later) here hkp
        cases hqp.symm.trans (apart p later)
    | false =>
      rcases List.mem_cons.1 inside with rfl | later
      · cases here.symm.trans equal
      · have passed : get? (q :: ps) k = get? ps k := by simp [get?, here]
        rw [passed]
        exact ih distinct hp.2 later

/-- Looking up every key of the one hash in the other compares the pairs with their likes. -/
theorem lookups_iff_includes (distinct : qs.Distinct) (hp : ∀ p ∈ ps, K p.1)
    (hq : ∀ q ∈ qs, K q.1) :
    (∀ p ∈ ps, ∃ v, qs.get? p.1 = some v ∧ v.beq p.2 = true) ↔ qs.Includes ps := by
  refine forall₂_congr fun p inside => ?_
  have found (v : Value) := get?_eq_some (v := v) keys distinct hq (hp p inside)
  constructor
  · rintro ⟨v, here, equal⟩
    obtain ⟨q, hq, same, rfl⟩ := (found v).1 here
    exact ⟨q, hq, same, equal⟩
  · rintro ⟨q, hq, same, equal⟩
    exact ⟨q.2, (found q.2).2 ⟨q, hq, same, rfl⟩, equal⟩

/-- Hashes of one size that include each other one way do so both ways. -/
theorem Includes.symm (size : ps.length = qs.length) (distinct : ps.Distinct)
    (hp : ∀ p ∈ ps, K p.1) (hq : ∀ q ∈ qs, K q.1)
    (values : ∀ p ∈ ps, ∀ q ∈ qs, q.2.beq p.2 = true → p.2.beq q.2 = true)
    (includes : qs.Includes ps) : ps.Includes qs := by
  have likes : ∀ i : Fin ps.length, ∃ j : Fin qs.length,
      qs[j].1.eql ps[i].1 = true ∧ qs[j].2.beq ps[i].2 = true := by
    intro i
    obtain ⟨q, inside, same, equal⟩ := includes ps[i] (List.getElem_mem _)
    obtain ⟨j, hj, rfl⟩ := List.mem_iff_getElem.1 inside
    exact ⟨⟨j, hj⟩, same, equal⟩
  choose like same equal using likes
  have key (i : Fin ps.length) : K ps[i].1 := hp _ (List.getElem_mem _)
  have key' (j : Fin qs.length) : K qs[j].1 := hq _ (List.getElem_mem _)
  have apart (i i' : Fin ps.length) (before : i < i') : ps[i].1.eql ps[i'].1 = false :=
    List.pairwise_iff_getElem.1 distinct i i' i.2 i'.2 before
  have injective : Function.Injective like := keys.injective_of_likes key key' apart same
  -- as many pairs on either side, and no two with the same like: every pair is a like
  have surjective : Function.Surjective like :=
    ((Fintype.bijective_iff_injective_and_card like).2 ⟨injective, by simp [size]⟩).2
  intro q inside
  obtain ⟨j, hj, rfl⟩ := List.mem_iff_getElem.1 inside
  obtain ⟨i, hi⟩ := surjective ⟨j, hj⟩
  have sameKey : qs[j].1.eql ps[i].1 = true := by simpa [hi] using same i
  have equalValue : qs[j].2.beq ps[i].2 = true := by simpa [hi] using equal i
  refine ⟨ps[i], List.getElem_mem _, ?_, ?_⟩
  · exact keys.symm (hq _ inside) (key i) sameKey
  · exact values _ (List.getElem_mem _) _ inside equalValue

end Pairs

end PatternDispatch
