import PatternDispatch.Proofs.NumbersInKeys

/-! The sides of equality. Hashes are compared by looking up the keys of the left one in the right
one, and it does not matter which is which as long as equal keys can be chained. Ranges with large
bounds can stand in the way: integers that differ may equal one float, and a hash with a key for each
of them then finds both in a hash that has the float. -/
namespace PatternDispatch

open Value

/-- The keys of the hashes among some values. -/
def IsKey (S : Value → Prop) (k : Value) : Prop := ∃ v, S v ∧ k ∈ v.keys

namespace Population

variable {S : Value → Prop} {a b : Value}

section

variable (population : Population S) (chained : ∀ k l m, IsKey S k → IsKey S l → IsKey S m →
  k.eql l = true → l.eql m = true → k.eql m = true)

include population chained

theorem sides_of_chained (ha : S a) (hb : S b) :
    (a.beq b = true → b.beq a = true) ∧ (a.eql b = true → b.eql a = true) := by
  suffices ∀ a b c, S a → S b → S c →
      (a.beq b = true → b.beq a = true) ∧ (a.eql b = true → b.eql a = true) from
    this a b a ha hb ha
  intro a b c ha hb hc
  induction a, b, c, ha, hb, hc using population.induction₃ with
  | step K a b c ha hb hc inA inB inC inS ih =>
    let L : Value → Prop := fun u => K u ∧ IsKey S u
    have keys : KeysAgree L := {
      symm := fun {x y} hx hy => (ih x y x hx.1 hy.1 hx.1).2
      trans := fun {x y z} hx hy hz => chained x y z hx.2 hy.2 hz.2 }
    have overA : a.Over K L := ⟨inA.contents, fun hu => ⟨inA.keys hu, a, ha, hu⟩⟩
    have overB : b.Over K L := ⟨inB.contents, fun hu => ⟨inB.keys hu, b, hb, hu⟩⟩
    have equality : a.beq b = true → b.beq a = true :=
      population.beq_symm keys (fun {x y} hx hy => (ih x y x hx hy hx).1) ha hb overA overB
    refine ⟨equality, eql_symm_of_contents ?_ fun _ _ => equality⟩
    exact fun u hu w hw => (ih u w u (inA.contents hu) (inB.contents hw) (inA.contents hu)).2

theorem sides_agree_of_chained (ha : S a) (hb : S b) :
    a.beq b = b.beq a ∧ a.eql b = b.eql a := by
  have there := population.sides_of_chained chained ha hb
  have back := population.sides_of_chained chained hb ha
  exact ⟨Bool.eq_iff_iff.2 ⟨there.1, back.1⟩, Bool.eq_iff_iff.2 ⟨there.2, back.2⟩⟩

end

/-- Neither equality nor key equality depends on the side, whatever numbers there are, as long as
equal keys can be chained. They can be if no key has a float in a range or under a key of its own. -/
theorem sides_agree (population : Population S) :
    ((∀ k l m, IsKey S k → IsKey S l → IsKey S m → k.eql l = true → l.eql m = true →
        k.eql m = true) →
      ∀ a b, S a → S b → a.beq b = b.beq a ∧ a.eql b = b.eql a) ∧
    (OnePerIdentity S → LooselyFloatFree (fun u => ∃ k, IsKey S k ∧ k.Inside u) →
      ∀ a b, S a → S b → a.beq b = b.beq a ∧ a.eql b = b.eql a) := by
  constructor
  · exact fun chained a b => population.sides_agree_of_chained chained
  · intro identities exact a b
    have inS (k : Value) : IsKey S k → S k := fun ⟨v, hv, hk⟩ =>
      population.parts hv (mem_parts_of_key hk)
    have within := population.within inS
    have insideS : ∀ u, (∃ k, IsKey S k ∧ k.Inside u) → S u := fun u ⟨k, hk, inside⟩ =>
      population.inside (inS k hk) inside
    have keys := within.keysAgree (identities.mono insideS) exact
    refine population.sides_agree_of_chained fun k l m hk hl hm => ?_
    exact keys.trans ⟨k, hk, .here⟩ ⟨l, hl, .here⟩ ⟨m, hm, .here⟩

end Population

/-- Hashes with an integer and with a float under their keys. -/
theorem sides_agree_sample :
    let whole : Value := .hash ⟨1⟩ [(.nil, .int 1)]
    let decimal : Value := .hash ⟨2⟩ [(.nil, .float (.ofInt64 1))]
    whole.beq decimal = decimal.beq whole ∧ whole.eql decimal = decimal.eql whole := by
  intro whole decimal
  let values := [whole, decimal, .nil, .int 1, .float (.ofInt64 1)]
  have population : Population (· ∈ values) := by
    apply Population.of_list
    · simp [values, whole, decimal, Value.parts, Value.keys, Value.contents]
    · change ∀ pairs ∈ [_, _], pairs = Pairs.ofList pairs
      exact List.forall_mem_cons.2 ⟨rfl, List.forall_mem_singleton.2 rfl⟩
  have identities : OnePerIdentity (· ∈ values) := .of_nodup (by decide)
  have key : ∀ k, IsKey (· ∈ values) k → k = .nil := by
    rintro k ⟨v, hv, hk⟩
    simp only [values, List.mem_cons, List.not_mem_nil, or_false] at hv
    rcases hv with rfl | rfl | rfl | rfl | rfl
    · exact List.mem_singleton.1 hk
    · exact List.mem_singleton.1 hk
    · cases hk
    · cases hk
    · cases hk
  have chained : ∀ k l m, IsKey (· ∈ values) k → IsKey (· ∈ values) l → IsKey (· ∈ values) m →
      k.eql l = true → l.eql m = true → k.eql m = true := by
    rintro k l m hk hl hm equal -
    rw [key m hm, ← key l hl]
    exact equal
  have exact : LooselyFloatFree fun u => ∃ k, IsKey (· ∈ values) k ∧ k.Inside u := by
    rintro v ⟨k, hk, inside⟩ u hu
    obtain rfl := key k hk
    obtain rfl := inside.eq_of_parts rfl
    cases hu
  obtain ⟨ofChained, ofExact⟩ := population.sides_agree
  constructor
  · exact (ofChained chained whole decimal (.head _) (.tail _ (.head _))).1
  · exact (ofExact identities exact whole decimal (.head _) (.tail _ (.head _))).2

/-- Ranges from `2 ^ 53` and from the integer after it are two keys, and a range from the float that
is nearest to both equals either: a hash with the two equals a hash with the one and another key, but
not the other way round. -/
theorem equality_depends_on_side :
    let even : Value := .range (some (.int 9007199254740992)) none false
    let odd : Value := .range (some (.int 9007199254740993)) none false
    let float : Value := .range (some (.float (.ofInt64 9007199254740992))) none false
    let left : Value := .hash ⟨1⟩ (Pairs.ofList [(even, .nil), (odd, .nil)])
    let right : Value := .hash ⟨2⟩ (Pairs.ofList [(float, .nil), (.nil, .nil)])
    left.beq right = true ∧ right.beq left = false ∧ left.eql right = true ∧
      right.eql left = false := by
  decide +kernel

end PatternDispatch
