import Mathlib.Data.List.Forall2
import PatternDispatch.Value.Pairs

/-! How two values can be equal, read one level deep. Equality is computed by functions that call
each other; here it is said once for each kind of value what equality asks of the parts, and later
proofs look at nothing else. -/
namespace PatternDispatch

section Componentwise

variable {α : Type} {R R' R'' : α → α → Prop}

theorem optionRel_refl_of_mem {s : Option α} (h : ∀ a ∈ s, R a a) : Option.Rel R s s := by
  cases s with
  | none => exact .none
  | some a => exact .some (h a rfl)

theorem optionRel_symm_of_mem {s t : Option α} (h : ∀ a ∈ s, ∀ b ∈ t, R a b → R' b a)
    (rel : Option.Rel R s t) : Option.Rel R' t s := by
  cases rel with
  | none => exact .none
  | some related => exact .some (h _ rfl _ rfl related)

theorem optionRel_trans_of_mem {s t u : Option α}
    (h : ∀ a ∈ s, ∀ b ∈ t, ∀ c ∈ u, R a b → R' b c → R'' a c) (rel : Option.Rel R s t)
    (rel' : Option.Rel R' t u) : Option.Rel R'' s u := by
  cases rel with
  | none =>
    cases rel' with
    | none => exact .none
  | some related =>
    cases rel' with
    | some related' => exact .some (h _ rfl _ rfl _ rfl related related')

theorem optionRel_imp_of_mem {s t : Option α} (h : ∀ a ∈ s, ∀ b ∈ t, R a b → R' a b)
    (rel : Option.Rel R s t) : Option.Rel R' s t := by
  cases rel with
  | none => exact .none
  | some related => exact .some (h _ rfl _ rfl related)

variable {xs ys zs : List α}

theorem forall₂_symm_of_mem (h : ∀ x ∈ xs, ∀ y ∈ ys, R x y → R' y x)
    (rel : List.Forall₂ R xs ys) : List.Forall₂ R' ys xs := by
  rw [List.forall₂_iff_get] at rel ⊢
  obtain ⟨size, related⟩ := rel
  exact ⟨size.symm, fun i hy hx => h _ (List.get_mem _ _) _ (List.get_mem _ _) (related i hx hy)⟩

theorem forall₂_trans_of_mem (h : ∀ x ∈ xs, ∀ y ∈ ys, ∀ z ∈ zs, R x y → R' y z → R'' x z)
    (rel : List.Forall₂ R xs ys) (rel' : List.Forall₂ R' ys zs) : List.Forall₂ R'' xs zs := by
  rw [List.forall₂_iff_get] at rel rel' ⊢
  obtain ⟨size, related⟩ := rel
  obtain ⟨size', related'⟩ := rel'
  refine ⟨size.trans size', fun i hx hz => ?_⟩
  have hy : i < ys.length := size ▸ hx
  exact h _ (List.get_mem _ _) _ (List.get_mem _ ⟨i, hy⟩) _ (List.get_mem _ _) (related i hx hy)
    (related' i hy hz)

theorem forall₂_imp_of_mem (h : ∀ x ∈ xs, ∀ y ∈ ys, R x y → R' x y)
    (rel : List.Forall₂ R xs ys) : List.Forall₂ R' xs ys := by
  rw [List.forall₂_iff_get] at rel ⊢
  obtain ⟨size, related⟩ := rel
  exact ⟨size, fun i hx hy => h _ (List.get_mem _ _) _ (List.get_mem _ _) (related i hx hy)⟩

end Componentwise

/-- Numbers that stand at the same place do so from either side. -/
theorem Binary64.cmp_eq_symm {x y : Binary64} (level : x.cmp y = some .eq) :
    y.cmp x = some .eq := by
  unfold cmp at level ⊢
  split at level
  case isTrue => cases level
  case isFalse numbers =>
    have one : x.rank = y.rank := Int.compare_eq_eq.1 (Option.some.inj level)
    rw [Bool.or_comm, if_neg numbers, one, Int.compare_eq_eq.2 rfl]

namespace Value

variable {a b : Value}

/-- Whether a number is not an integer. -/
def isFloat : Value → Bool
  | .float _ => true
  | _ => false

/-- The ways in which equality holds. -/
inductive Same : Value → Value → Prop where
  | nil : Same .nil .nil
  | bool (b : Bool) : Same (.bool b) (.bool b)
  | int (n : Int64) : Same (.int n) (.int n)
  | intFloat {n : Int64} {x : Binary64} (level : (int n).cmp (float x) = some .eq) :
    Same (.int n) (.float x)
  | floatInt {x : Binary64} {n : Int64} (level : (float x).cmp (int n) = some .eq) :
    Same (.float x) (.int n)
  | float {x y : Binary64} (level : (float x).cmp (float y) = some .eq) :
    Same (.float x) (.float y)
  | symbol (n : Name) : Same (.symbol n) (.symbol n)
  | range {start start' stop stop' : Option Value} (exclusive : Bool)
    (starts : Option.Rel (fun a b => a.beq b = true) start start')
    (stops : Option.Rel (fun a b => a.beq b = true) stop stop') :
    Same (.range start stop exclusive) (.range start' stop' exclusive)
  | classRef (c : ClassRef) : Same (.classRef c) (.classRef c)
  | str (s : String) : Same (.str s) (.str s)
  | array {i j : Identity} {xs ys : List Value}
    (items : i = j ∨ List.Forall₂ (fun a b => a.beq b = true) xs ys) :
    Same (.array i xs) (.array j ys)
  | hash {i j : Identity} {ps qs : Pairs}
    (pairs : i = j ∨ ps.length = qs.length ∧
      ∀ p ∈ ps, ∃ v, qs.get? p.1 = some v ∧ v.beq p.2 = true) :
    Same (.hash i ps) (.hash j qs)
  | regex {r s : Regex} (source : r.source = s.source) : Same (.regex r) (.regex s)
  | proc (i : Identity) : Same (.proc i) (.proc i)
  | object (i : Identity) {m n : Name} {ms ns : List Name} : Same (.object i m ms) (.object i n ns)

theorem Same.noArray (same : Same a b) (noArray : a.items? = none) : b.items? = none := by
  cases same with
  | array items => cases noArray
  | _ => rfl

theorem beqBound_iff {s t : Option Value} :
    beqBound s t = true ↔ Option.Rel (fun a b => a.beq b = true) s t := by
  constructor
  · intro h
    cases s <;> cases t <;> unfold beqBound at h
    · exact .none
    · cases h
    · cases h
    · exact .some h
  · intro h
    cases h with
    | none => unfold beqBound; rfl
    | some h => unfold beqBound; exact h

theorem beqItems_iff {xs ys : List Value} :
    beqItems xs ys = true ↔ List.Forall₂ (fun a b => a.beq b = true) xs ys := by
  induction xs generalizing ys with
  | nil => cases ys <;> unfold beqItems <;> simp
  | cons x xs ih =>
    cases ys with
    | nil => unfold beqItems; simp
    | cons y ys => unfold beqItems; simp [ih]

theorem eqlItems_iff {xs ys : List Value} :
    eqlItems xs ys = true ↔ List.Forall₂ (fun a b => a.eql b = true) xs ys := by
  induction xs generalizing ys with
  | nil => cases ys <;> unfold eqlItems <;> simp
  | cons x xs ih =>
    cases ys with
    | nil => unfold eqlItems; simp
    | cons y ys => unfold eqlItems; simp [ih]

theorem beqEntry_iff {k v : Value} {qs : Pairs} :
    beqEntry k v qs = true ↔ ∃ u, qs.get? k = some u ∧ u.beq v = true := by
  induction qs with
  | nil => unfold beqEntry; simp [Pairs.get?]
  | cons q qs ih =>
    obtain ⟨k', v'⟩ := q
    unfold beqEntry
    cases found : k'.eql k with
    | true => simp [Pairs.get?, found]
    | false => simpa [Pairs.get?, found] using ih

theorem beqPairs_iff {ps qs : Pairs} :
    beqPairs ps qs = true ↔ ∀ p ∈ ps, ∃ u, qs.get? p.1 = some u ∧ u.beq p.2 = true := by
  induction ps with
  | nil => unfold beqPairs; simp
  | cons p ps ih =>
    obtain ⟨k, v⟩ := p
    unfold beqPairs
    rw [Bool.and_eq_true, beqEntry_iff, ih, List.forall_mem_cons]

/-- Equality holds in these ways only. -/
theorem beq_iff : a.beq b = true ↔ Same a b := by
  constructor
  · intro h
    unfold beq at h
    split at h
    case h_1 => exact .nil
    case h_2 => exact beq_iff_eq.1 h ▸ .bool _
    case h_3 => exact beq_iff_eq.1 h ▸ .int _
    case h_4 => exact .intFloat (beq_iff_eq.1 h)
    case h_5 => exact .floatInt (beq_iff_eq.1 h)
    case h_6 => exact .float (beq_iff_eq.1 h)
    case h_7 => exact beq_iff_eq.1 h ▸ .symbol _
    case h_8 =>
      simp only [Bool.and_eq_true, beq_iff_eq, beqBound_iff] at h
      obtain ⟨⟨starts, stops⟩, rfl⟩ := h
      exact .range _ starts stops
    case h_9 => exact beq_iff_eq.1 h ▸ .classRef _
    case h_10 => exact beq_iff_eq.1 h ▸ .str _
    case h_11 =>
      rw [Bool.or_eq_true, beq_iff_eq, beqItems_iff] at h
      exact .array h
    case h_12 =>
      rw [Bool.or_eq_true, Bool.and_eq_true, beq_iff_eq, beq_iff_eq, beqPairs_iff] at h
      exact .hash h
    case h_13 => exact .regex (beq_iff_eq.1 h)
    case h_14 => exact beq_iff_eq.1 h ▸ .proc _
    case h_15 => exact beq_iff_eq.1 h ▸ .object _
    case h_16 => cases h
  · intro h
    cases h with
    | intFloat level =>
      unfold beq
      exact beq_iff_eq.2 level
    | floatInt level =>
      unfold beq
      exact beq_iff_eq.2 level
    | float level =>
      unfold beq
      exact beq_iff_eq.2 level
    | range exclusive starts stops =>
      unfold beq
      simp [beqBound_iff, starts, stops]
    | array items =>
      unfold beq
      simpa [beqItems_iff] using items
    | hash pairs =>
      unfold beq
      simpa [beqPairs_iff] using pairs
    | regex source =>
      unfold beq
      exact beq_iff_eq.2 source
    | _ =>
      unfold beq
      simp

/-- The ways in which key equality holds. Only floats and arrays have rules of their own. -/
inductive SameKey : Value → Value → Prop where
  | float (x : Binary64) : SameKey (.float x) (.float x)
  | array {i j : Identity} {xs ys : List Value}
    (items : List.Forall₂ (fun a b => a.eql b = true) xs ys) :
    SameKey (.array i xs) (.array j ys)
  | plain {a b : Value} (same : Same a b) (left : a.isFloat = false) (right : b.isFloat = false)
    (noArray : a.items? = none) : SameKey a b

/-- Key equality holds in these ways only. -/
theorem eql_iff : a.eql b = true ↔ SameKey a b := by
  constructor
  · intro h
    unfold eql at h
    split at h
    case h_1 => cases h
    case h_2 => cases h
    case h_3 => exact beq_iff_eq.1 h ▸ .float _
    case h_4 => exact .array (eqlItems_iff.1 h)
    case h_5 intFloat floatInt floats arrays =>
      have same := beq_iff.1 h
      cases same with
      | intFloat level => exact (intFloat _ _ rfl rfl).elim
      | floatInt level => exact (floatInt _ _ rfl rfl).elim
      | float level => exact (floats _ _ rfl rfl).elim
      | array items => exact (arrays _ _ _ _ rfl rfl).elim
      | _ => exact .plain (beq_iff.1 h) rfl rfl rfl
  · intro h
    cases h with
    | float x => unfold eql; simp
    | array items => unfold eql; exact eqlItems_iff.2 items
    | plain same left right noArray =>
      have equal := beq_iff.2 same
      unfold eql
      split
      case h_1 => cases right
      case h_2 => cases left
      case h_3 => cases left
      case h_4 => cases noArray
      case h_5 => exact equal

end Value

end PatternDispatch
