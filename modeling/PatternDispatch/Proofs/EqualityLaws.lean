import PatternDispatch.Proofs.InsertedPairs
import PatternDispatch.Proofs.InsideValues

/-! The laws of equality. Each is shown of a value from what is known of its contents and its keys:
contents are compared by equality and keys are looked up by key equality, which has to go both ways
and in chains for a key to be found in one place only. Among values without floats both are one
equivalence. -/
namespace PatternDispatch

namespace Value

/-- Among some values, equality goes both ways, can be chained, and is key equality. -/
structure EqualityOn (K : Value → Prop) : Prop where
  symm {a b : Value} (ha : K a) (hb : K b) (h : a.beq b = true) : b.beq a = true
  trans {a b c : Value} (ha : K a) (hb : K b) (hc : K c) (h : a.beq b = true)
    (h' : b.beq c = true) : a.beq c = true
  eql {a b : Value} (ha : K a) (hb : K b) : a.eql b = a.beq b

theorem EqualityOn.keysAgree {K : Value → Prop} (equality : EqualityOn K) : KeysAgree K where
  symm ha hb h := by
    rw [equality.eql hb ha]
    exact equality.symm ha hb (equality.eql ha hb ▸ h)
  trans ha hb hc h h' := by
    rw [equality.eql ha hc]
    exact equality.trans ha hb hc (equality.eql ha hb ▸ h) (equality.eql hb hc ▸ h')

/-- A value equals itself if its contents do and it is no float. -/
theorem beq_self_of_contents {a : Value} (noFloat : a.isFloat = false)
    (contents : ∀ u ∈ a.contents, u.beq u = true) : a.beq a = true := by
  rw [beq_iff]
  cases a with
  | nil => exact .nil
  | bool b => exact .bool b
  | int n => exact .int n
  | float x => cases noFloat
  | symbol n => exact .symbol n
  | range start stop exclusive =>
    apply Same.range
    · exact optionRel_refl_of_mem fun u hu => contents u (start_mem_contents hu)
    · exact optionRel_refl_of_mem fun u hu => contents u (stop_mem_contents hu)
  | classRef c => exact .classRef c
  | str s => exact .str s
  | array id items => exact .array (.inl rfl)
  | hash id pairs => exact .hash (.inl rfl)
  | regex r => exact .regex rfl
  | proc id => exact .proc id
  | object id className ancestors => exact .object id

/-- Key equality goes both ways if it does so for the contents, or equality does so in its place. -/
theorem eql_symm_of_contents {a b : Value}
    (contents : ∀ u ∈ a.contents, ∀ w ∈ b.contents, u.eql w = true → w.eql u = true)
    (plain : a.items? = none → b.items? = none → a.beq b = true → b.beq a = true)
    (h : a.eql b = true) : b.eql a = true := by
  cases eql_iff.1 h with
  | float x => exact h
  | array items => exact eql_iff.2 (.array (forall₂_symm_of_mem contents items))
  | plain same left right noArray =>
    have noArray' := same.noArray noArray
    have back := plain noArray noArray' (beq_iff.2 same)
    exact eql_iff.2 (.plain (beq_iff.1 back) right left noArray')

end Value

namespace Population

open Value

variable {S : Value → Prop} {i j : Identity} {ps qs : Pairs} {a b c : Value}

theorem distinct (population : Population S) (h : S (.hash i ps)) : ps.Distinct := by
  obtain ⟨entries, rfl⟩ := population.inserted h
  exact Pairs.ofList_distinct entries

section

variable {K L : Value → Prop} (population : Population S) (keys : KeysAgree L)

include population keys

/-- Hashes are equal if they are the same hash, or have the same size and one includes the other. -/
theorem beq_hash_iff (hq : S (.hash j qs)) (inP : ∀ p ∈ ps, L p.1) (inQ : ∀ q ∈ qs, L q.1) :
    (Value.hash i ps).beq (.hash j qs) = true ↔
      i = j ∨ ps.length = qs.length ∧ qs.Includes ps := by
  rw [← Pairs.lookups_iff_includes keys (population.distinct hq) inP inQ, beq_iff]
  constructor
  · rintro ⟨⟩
    assumption
  · exact .hash

/-- Equality goes both ways if it does so for the contents. -/
theorem beq_symm (symm : ∀ {u w}, K u → K w → u.beq w = true → w.beq u = true) (ha : S a)
    (hb : S b) (inA : a.Over K L) (inB : b.Over K L) (h : a.beq b = true) : b.beq a = true := by
  have same := beq_iff.1 h
  cases same with
  | intFloat level => exact beq_iff.2 (.floatInt (Binary64.cmp_eq_symm level))
  | floatInt level => exact beq_iff.2 (.intFloat (Binary64.cmp_eq_symm level))
  | float level => exact beq_iff.2 (.float (Binary64.cmp_eq_symm level))
  | range exclusive starts stops =>
    refine beq_iff.2 (.range exclusive (optionRel_symm_of_mem ?_ starts)
      (optionRel_symm_of_mem ?_ stops))
    · exact fun u hu w hw => symm (inA.start u hu) (inB.start w hw)
    · exact fun u hu w hw => symm (inA.stop u hu) (inB.stop w hw)
  | array items =>
    refine beq_iff.2 (.array (items.imp Eq.symm (forall₂_symm_of_mem ?_)))
    exact fun u hu w hw => symm (inA.contents hu) (inB.contents hw)
  | @hash i j ps qs pairs =>
    rw [population.beq_hash_iff keys hb inA.key inB.key] at h
    rw [population.beq_hash_iff keys ha inB.key inA.key]
    refine h.imp Eq.symm fun ⟨size, includes⟩ => ⟨size.symm, ?_⟩
    refine includes.symm keys size (population.distinct ha) inA.key inB.key ?_
    exact fun p hp q hq => symm (inB.value q hq) (inA.value p hp)
  | regex source => exact beq_iff.2 (.regex source.symm)
  | object i => exact beq_iff.2 (.object i)
  | _ => exact h

/-- Equality can be chained if it can be for the contents. A float may equal integers that differ:
it stands at neither of the first two places. -/
theorem beq_trans (identities : OnePerIdentity S)
    (trans : ∀ {u v w}, K u → K v → K w → u.beq v = true → v.beq w = true → u.beq w = true)
    (ha : S a) (hb : S b) (hc : S c) (inA : a.Over K L) (inB : b.Over K L) (inC : c.Over K L)
    (noFloatA : a.isFloat = false) (noFloatB : b.isFloat = false) (h : a.beq b = true)
    (h' : b.beq c = true) : a.beq c = true := by
  have same := beq_iff.1 h
  have same' := beq_iff.1 h'
  cases same with
  | intFloat level => cases noFloatB
  | floatInt level => cases noFloatA
  | float level => cases noFloatA
  | range exclusive starts stops =>
    cases same' with
    | range _ starts' stops' =>
      refine beq_iff.2 (.range exclusive (optionRel_trans_of_mem ?_ starts starts')
        (optionRel_trans_of_mem ?_ stops stops'))
      · exact fun u hu v hv w hw => trans (inA.start u hu) (inB.start v hv) (inC.start w hw)
      · exact fun u hu v hv w hw => trans (inA.stop u hu) (inB.stop v hv) (inC.stop w hw)
  | array items =>
    cases same' with
    | array items' =>
      rcases items with rfl | items
      · exact identities.items ha hb ▸ h'
      rcases items' with rfl | items'
      · exact identities.items hb hc ▸ h
      refine beq_iff.2 (.array (.inr (forall₂_trans_of_mem ?_ items items')))
      exact fun u hu v hv w hw => trans (inA.contents hu) (inB.contents hv) (inC.contents hw)
  | @hash i j ps qs pairs =>
    cases same' with
    | @hash _ k _ rs pairs' =>
      rcases (population.beq_hash_iff keys hb inA.key inB.key).1 h with rfl | ⟨size, includes⟩
      · exact identities.pairs ha hb ▸ h'
      rcases (population.beq_hash_iff keys hc inB.key inC.key).1 h' with rfl | ⟨size', includes'⟩
      · exact identities.pairs hb hc ▸ h
      rw [population.beq_hash_iff keys hc inA.key inC.key]
      refine .inr ⟨size.trans size', fun p hp => ?_⟩
      obtain ⟨q, hq, key, value⟩ := includes p hp
      obtain ⟨r, hr, key', value'⟩ := includes' q hq
      refine ⟨r, hr, ?_, ?_⟩
      · exact keys.trans (inC.key r hr) (inB.key q hq) (inA.key p hp) key' key
      · exact trans (inC.value r hr) (inB.value q hq) (inA.value p hp) value' value
  | regex source =>
    cases same' with
    | regex source' => exact beq_iff.2 (.regex (source.trans source'))
  | object i =>
    cases same' with
    | object _ => exact beq_iff.2 (.object i)
  | _ => exact h'

end

section

variable (population : Population S) (identities : OnePerIdentity S)
  (floatFree : ∀ x, ¬ S (.float x))

include floatFree

theorem isFloat_eq_false (ha : S a) : a.isFloat = false := by
  cases a with
  | float x => exact absurd ha (floatFree x)
  | _ => rfl

include population

/-- Without floats, every value equals itself. -/
theorem beq_self (ha : S a) : a.beq a = true := by
  induction a using induction_on_parts with
  | step a ih =>
    refine beq_self_of_contents (isFloat_eq_false floatFree ha) fun u hu => ?_
    exact ih u (mem_parts_of_content hu) (population.parts ha (mem_parts_of_content hu))

include identities

/-- Equality is key equality if it is so for the contents. -/
theorem eql_eq_beq (eql : ∀ u ∈ a.contents, ∀ w ∈ b.contents, u.eql w = u.beq w)
    (ha : S a) (hb : S b) : a.eql b = a.beq b := by
  have self : ∀ u ∈ a.contents, u.beq u = true := fun u hu =>
    population.beq_self floatFree (population.parts ha (mem_parts_of_content hu))
  rw [Bool.eq_iff_iff]
  constructor
  · intro h
    cases eql_iff.1 h with
    | float x => exact absurd ha (floatFree x)
    | array items =>
      refine beq_iff.2 (.array (.inr (forall₂_imp_of_mem ?_ items)))
      exact fun u hu w hw equal => eql u hu w hw ▸ equal
    | plain same => exact beq_iff.2 same
  · intro h
    have same := beq_iff.1 h
    cases same with
    | @array i j xs ys items =>
      refine eql_iff.2 (.array ?_)
      rcases items with rfl | items
      · obtain rfl := identities.items ha hb
        refine List.forall₂_same.2 fun u hu => ?_
        rw [eql u hu u hu]
        exact self u hu
      · refine forall₂_imp_of_mem ?_ items
        exact fun u hu w hw equal => eql u hu w hw ▸ equal
    | _ =>
      have left := isFloat_eq_false floatFree ha
      have right := isFloat_eq_false floatFree hb
      exact eql_iff.2 (.plain (beq_iff.1 h) left right rfl)

/-- Without floats, equality goes both ways, can be chained, and is key equality. -/
theorem equalityOn : EqualityOn S := by
  suffices ∀ a b c, S a → S b → S c →
      (a.beq b = true → b.beq a = true) ∧
      (a.beq b = true → b.beq c = true → a.beq c = true) ∧ a.eql b = a.beq b from
    { symm := fun {a b} ha hb => (this a b a ha hb ha).1
      trans := fun {a b c} ha hb hc => (this a b c ha hb hc).2.1
      eql := fun {a b} ha hb => (this a b a ha hb ha).2.2 }
  intro a b c ha hb hc
  induction a, b, c, ha, hb, hc using population.induction₃ with
  | step K a b c ha hb hc inA inB inC inS ih =>
    have known : EqualityOn K := {
      symm := fun {x y} hx hy => (ih x y x hx hy hx).1
      trans := fun {x y z} hx hy hz => (ih x y z hx hy hz).2.1
      eql := fun {x y} hx hy => (ih x y x hx hy hx).2.2 }
    have noFloatA := isFloat_eq_false floatFree ha
    have noFloatB := isFloat_eq_false floatFree hb
    refine ⟨?_, ?_, ?_⟩
    · exact population.beq_symm known.keysAgree known.symm ha hb inA inB
    · exact population.beq_trans known.keysAgree identities known.trans ha hb hc inA inB inC
        noFloatA noFloatB
    · exact population.eql_eq_beq identities floatFree
        (fun u hu w hw => known.eql (inA.contents hu) (inB.contents hw)) ha hb

end

end Population

end PatternDispatch
