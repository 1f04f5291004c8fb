import Mathlib.Data.List.Perm.Basic
import PatternDispatch.Proofs.KeptAnswers

/-! Which requests for keys share an answer. The increasing list that stands for a request is the
same for two requests exactly when they name the same keys. -/
namespace PatternDispatch

theorem mem_insertName (n m : Name) (ms : List Name) : m ∈ insertName n ms ↔ m = n ∨ m ∈ ms := by
  induction ms with
  | nil => simp [insertName]
  | cons k ms ih =>
    simp only [insertName]
    cases h : n.cmp k with
    | lt => simp
    | eq =>
      have same : n = k := by
        have := Nat.compare_eq_eq.1 h
        cases n; cases k; simp_all
      simp [same]
    | gt => simp [ih]; tauto

/-- Each name once, in increasing order. -/
def Increasing (ns : List Name) : Prop := ns.Pairwise fun m n => m.index < n.index

theorem insertName_increasing (n : Name) {ms : List Name} (h : Increasing ms) :
    Increasing (insertName n ms) := by
  induction ms with
  | nil => simp [insertName, Increasing]
  | cons k ms ih =>
    obtain ⟨below, rest⟩ := List.pairwise_cons.1 h
    simp only [insertName]
    cases hcmp : n.cmp k with
    | lt =>
      have less : n.index < k.index := Nat.compare_eq_lt.1 hcmp
      refine List.pairwise_cons.2 ⟨fun m hm => ?_, h⟩
      rcases List.mem_cons.1 hm with rfl | hm
      · exact less
      · exact Nat.lt_trans less (below m hm)
    | eq => exact h
    | gt =>
      have greater : k.index < n.index := Nat.compare_eq_gt.1 hcmp
      refine List.pairwise_cons.2 ⟨fun m hm => ?_, ih rest⟩
      rcases (mem_insertName n m ms).1 hm with rfl | hm
      · exact greater
      · exact below m hm

@[simp]
theorem mem_nameSet (ns : List Name) (m : Name) : m ∈ nameSet ns ↔ m ∈ ns := by
  induction ns with
  | nil => simp [nameSet]
  | cons n ns ih =>
    have unfolded : nameSet (n :: ns) = insertName n (nameSet ns) := rfl
    rw [unfolded, mem_insertName, ih, List.mem_cons]

theorem nameSet_increasing (ns : List Name) : Increasing (nameSet ns) := by
  induction ns with
  | nil => exact List.Pairwise.nil
  | cons n ns ih => exact insertName_increasing n ih

theorem Increasing.ext {ms ns : List Name} (hm : Increasing ms) (hn : Increasing ns)
    (same : ∀ n, n ∈ ms ↔ n ∈ ns) : ms = ns := by
  have distinct {ks : List Name} (h : Increasing ks) : ks.Nodup :=
    List.Pairwise.imp (fun less eq => by subst eq; exact Nat.lt_irrefl _ less) h
  have perm : ms.Perm ns := (List.perm_ext_iff_of_nodup (distinct hm) (distinct hn)).2 same
  exact List.Perm.eq_of_pairwise (fun a b _ _ hab hba => absurd hab (Nat.lt_asymm hba)) hm hn perm

/-- Order and repetition do not matter, and nothing else is lost. -/
theorem nameSet_eq_iff (ms ns : List Name) : nameSet ms = nameSet ns ↔ ∀ n, n ∈ ms ↔ n ∈ ns := by
  constructor
  · intro h n
    rw [← mem_nameSet ms, ← mem_nameSet ns, h]
  · intro h
    exact (nameSet_increasing ms).ext (nameSet_increasing ns) fun n => by simpa using h n

example : nameSet [⟨2⟩, ⟨1⟩, ⟨2⟩] = [⟨1⟩, ⟨2⟩] := by decide

/-- Whether one answer serves two requests that reach the same value. -/
def KeysCachePolicy.Shares : KeysCachePolicy → Option (List Name) → Option (List Name) → Prop
  | .perValue, _, _ => True
  | .perKeySet, none, none => True
  | .perKeySet, some ks, some ks' => ∀ n, n ∈ ks ↔ n ∈ ks'
  | .perKeySet, _, _ => False
  | .uncached, _, _ => False

theorem KeysCachePolicy.shared_scope? (policy : KeysCachePolicy)
    (requested requested' : Option (List Name)) :
    Shared (policy.scope? requested) (policy.scope? requested') ↔
      policy.Shares requested requested' := by
  cases policy with
  | perValue => simp [Shared, scope?, Shares]
  | uncached => simp [Shared, scope?, Shares]
  | perKeySet =>
    have kept : Shared (perKeySet.scope? requested) (perKeySet.scope? requested') ↔
        requested.map nameSet = requested'.map nameSet := by
      simp [Shared, scope?, eq_comm]
    rw [kept]
    cases requested <;> cases requested' <;> simp [Shares, nameSet_eq_iff]

end PatternDispatch
