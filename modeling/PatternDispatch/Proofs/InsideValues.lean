import Mathlib.Data.List.Pairwise
import PatternDispatch.Value.Pairs

/-! What is inside of values. A range has bounds, an array has items, a hash has keys and values,
and each of these may have something inside of it again. What is said of values is said of a
collection that holds, with a value, all that is inside of it: the values that a program can hold at
one time. -/
namespace PatternDispatch

namespace Value

theorem sameIdentity_iff {v w : Value} :
    v.sameIdentity w = true ↔ ∃ i, v.identity? = some i ∧ w.identity? = some i := by
  unfold sameIdentity
  split
  case h_1 i j hi hj =>
    simp only [hi, hj, beq_iff_eq, Option.some.injEq, exists_eq_left']
    exact eq_comm
  case h_2 different =>
    simp only [Bool.false_eq_true, false_iff, not_exists, not_and]
    exact fun i hi hj => different i i hi hj

/-- The keys of a hash. -/
def keys : Value → List Value
  | .hash _ pairs => pairs.map Prod.fst
  | _ => []

/-- What a value is made of beside keys: bounds, items and what stands under the keys. -/
def contents : Value → List Value
  | .range start stop _ => start.toList ++ stop.toList
  | .array _ items => items
  | .hash _ pairs => pairs.map Prod.snd
  | _ => []

/-- What a value is made of. -/
def parts (v : Value) : List Value := v.keys ++ v.contents

section

variable {u v : Value}

theorem mem_parts_of_key (hu : u ∈ v.keys) : u ∈ v.parts := List.mem_append_left _ hu

theorem mem_parts_of_content (hu : u ∈ v.contents) : u ∈ v.parts := List.mem_append_right _ hu

variable {start stop : Option Value} {exclusive : Bool} {id : Identity} {pairs : Pairs}
  {p : Value × Value}

theorem start_mem_contents (hu : u ∈ start) : u ∈ (Value.range start stop exclusive).contents :=
  List.mem_append_left _ (Option.mem_toList.2 hu)

theorem stop_mem_contents (hu : u ∈ stop) : u ∈ (Value.range start stop exclusive).contents :=
  List.mem_append_right _ (Option.mem_toList.2 hu)

theorem key_mem_keys (hp : p ∈ pairs) : p.1 ∈ (Value.hash id pairs).keys :=
  List.mem_map_of_mem hp

theorem value_mem_contents (hp : p ∈ pairs) : p.2 ∈ (Value.hash id pairs).contents :=
  List.mem_map_of_mem hp

end

/-- What stands in a value is among `K`, and the keys that it has are among `L`. -/
structure Over (K L : Value → Prop) (v : Value) : Prop where
  contents {u : Value} (hu : u ∈ v.contents) : K u
  keys {u : Value} (hu : u ∈ v.keys) : L u

namespace Over

variable {K L : Value → Prop} {v : Value} {first last : Option Value} {exclusive : Bool}
  {id : Identity} {pairs : Pairs}

theorem of_parts (h : ∀ u ∈ v.parts, K u) : v.Over K K :=
  ⟨fun hu => h _ (mem_parts_of_content hu), fun hu => h _ (mem_parts_of_key hu)⟩

theorem start (h : (Value.range first last exclusive).Over K L) : ∀ u ∈ first, K u :=
  fun _ hu => h.contents (start_mem_contents hu)

theorem stop (h : (Value.range first last exclusive).Over K L) : ∀ u ∈ last, K u :=
  fun _ hu => h.contents (stop_mem_contents hu)

theorem key (h : (Value.hash id pairs).Over K L) : ∀ p ∈ pairs, L p.1 :=
  fun _ hp => h.keys (key_mem_keys hp)

theorem value (h : (Value.hash id pairs).Over K L) : ∀ p ∈ pairs, K p.2 :=
  fun _ hp => h.contents (value_mem_contents hp)

end Over

theorem sizeOf_lt_of_mem_parts {u v : Value} (inside : u ∈ v.parts) : sizeOf u < sizeOf v := by
  cases v with
  | range start stop exclusive =>
    simp only [parts, keys, contents, List.nil_append, List.mem_append, Option.mem_toList] at inside
    rcases inside with rfl | rfl
    all_goals
      simp only [range.sizeOf_spec, Option.some.sizeOf_spec]
      omega
  | array id items =>
    have smaller : sizeOf u < sizeOf items := List.sizeOf_lt_of_mem inside
    simp only [array.sizeOf_spec]
    omega
  | hash id pairs =>
    have smaller : ∀ p ∈ pairs, sizeOf p.1 < sizeOf pairs ∧ sizeOf p.2 < sizeOf pairs := by
      rintro ⟨k, v⟩ here
      have pair := List.sizeOf_lt_of_mem here
      simp only [Prod.mk.sizeOf_spec] at pair
      constructor
      · change sizeOf k < sizeOf pairs
        omega
      · change sizeOf v < sizeOf pairs
        omega
    simp only [parts, keys, contents, List.mem_append, List.mem_map] at inside
    simp only [hash.sizeOf_spec]
    rcases inside with ⟨p, here, rfl⟩ | ⟨p, here, rfl⟩
    · have := (smaller p here).1
      omega
    · have := (smaller p here).2
      omega
  | _ => simp [parts, keys, contents] at inside

/-- Induction on three values at once, down to what they are made of. Equality mixes its sides: what
it says of two hashes depends on keys of either one, with one from the other in between. -/
theorem induction₃ {motive : Value → Value → Value → Prop}
    (step : ∀ a b c,
      (∀ x y z, x ∈ a.parts ++ b.parts ++ c.parts → y ∈ a.parts ++ b.parts ++ c.parts →
        z ∈ a.parts ++ b.parts ++ c.parts → motive x y z) → motive a b c) (a b c : Value) :
    motive a b c := by
  -- the induction is on a bound for the sizes
  suffices ∀ n, ∀ a b c : Value, sizeOf a < n → sizeOf b < n → sizeOf c < n → motive a b c from
    this (sizeOf a + sizeOf b + sizeOf c + 1) a b c (by omega) (by omega) (by omega)
  intro n
  induction n with
  | zero => exact fun a b c ha => absurd ha (Nat.not_lt_zero _)
  | succ n ih =>
    intro a b c ha hb hc
    have smaller : ∀ u ∈ a.parts ++ b.parts ++ c.parts, sizeOf u < n := by
      intro u inside
      rw [List.mem_append, List.mem_append] at inside
      rcases inside with (inside | inside) | inside
      all_goals
        have := sizeOf_lt_of_mem_parts inside
        omega
    exact step a b c fun x y z hx hy hz => ih x y z (smaller x hx) (smaller y hy) (smaller z hz)

/-- Induction on a value, down to what it is made of. -/
@[elab_as_elim]
theorem induction_on_parts {motive : Value → Prop}
    (step : ∀ a, (∀ u ∈ a.parts, motive u) → motive a) (a : Value) : motive a := by
  refine induction₃ (motive := fun a _ _ => motive a) (fun a b c ih => ?_) a a a
  refine step a fun u hu => ih u u u ?_ ?_ ?_
  all_goals exact List.mem_append_left _ (List.mem_append_left _ hu)

/-- A value is inside of itself, and so is what it is made of. -/
inductive Inside (v : Value) : Value → Prop where
  | here : Inside v v
  | part {u w : Value} (inside : Inside v u) (hw : w ∈ u.parts) : Inside v w

/-- Nothing else is inside of a value that is made of nothing. -/
theorem Inside.eq_of_parts {v w : Value} (atom : v.parts = []) (h : v.Inside w) : w = v := by
  induction h with
  | here => rfl
  | part _ hw ih =>
    rw [ih, atom] at hw
    cases hw

end Value

/-- Values that a program can hold: with a value there is what it is made of, and hashes have been
filled by insertion. -/
structure Population (S : Value → Prop) : Prop where
  parts {v u : Value} (hv : S v) (hu : u ∈ v.parts) : S u
  inserted {id : Identity} {pairs : Pairs} (h : S (.hash id pairs)) :
    ∃ entries, pairs = Pairs.ofList entries

/-- Values with the same identity are the same value. -/
def OnePerIdentity (S : Value → Prop) : Prop :=
  ∀ v w, S v → S w → v.sameIdentity w = true → v = w

variable {S T : Value → Prop} {u v : Value}

namespace Population

theorem inside (population : Population S) (hv : S v) (h : v.Inside u) : S u := by
  induction h with
  | here => exact hv
  | part _ hw ih => exact population.parts ih hw

/-- Induction on three values of a population. Of what they are made of nothing has to be known but
that it is among some `K` for which the statement holds. -/
@[elab_as_elim]
theorem induction₃ (population : Population S)
    {motive : (a b c : Value) → S a → S b → S c → Prop}
    (step : ∀ (K : Value → Prop) a b c (ha : S a) (hb : S b) (hc : S c), a.Over K K →
      b.Over K K → c.Over K K → ∀ inS : ∀ u, K u → S u,
      (∀ x y z (hx : K x) (hy : K y) (hz : K z),
        motive x y z (inS x hx) (inS y hy) (inS z hz)) → motive a b c ha hb hc)
    (a b c : Value) (ha : S a) (hb : S b) (hc : S c) : motive a b c ha hb hc := by
  induction a, b, c using Value.induction₃ with
  | step a b c ih =>
    let K : Value → Prop := fun u => u ∈ a.parts ++ b.parts ++ c.parts
    have inS : ∀ u, K u → S u := by
      intro u hu
      rcases List.mem_append.1 hu with hu | hu
      · rcases List.mem_append.1 hu with hu | hu
        · exact population.parts ha hu
        · exact population.parts hb hu
      · exact population.parts hc hu
    have inA : a.Over K K := .of_parts fun u hu => by simp [K, hu]
    have inB : b.Over K K := .of_parts fun u hu => by simp [K, hu]
    have inC : c.Over K K := .of_parts fun u hu => by simp [K, hu]
    exact step K a b c ha hb hc inA inB inC inS fun x y z hx hy hz =>
      ih x y z hx hy hz (inS x hx) (inS y hy) (inS z hz)

/-- A list of values that also lists what they are made of. -/
theorem of_list {values : List Value} (parts : ∀ v ∈ values, ∀ u ∈ v.parts, u ∈ values)
    (inserted : ∀ pairs ∈ values.filterMap Value.pairs?, pairs = Pairs.ofList pairs) :
    Population (· ∈ values) where
  parts := fun hv hu => parts _ hv _ hu
  inserted := fun h => ⟨_, inserted _ (List.mem_filterMap.2 ⟨_, h, rfl⟩)⟩

/-- What is inside of some of the values. -/
theorem within (population : Population S) (some : ∀ v, T v → S v) :
    Population fun u => ∃ v, T v ∧ v.Inside u where
  parts := fun ⟨v, hv, inside⟩ hu => ⟨v, hv, inside.part hu⟩
  inserted := fun ⟨v, hv, inside⟩ => population.inserted (population.inside (some v hv) inside)

end Population

theorem OnePerIdentity.mono (identities : OnePerIdentity S) (some : ∀ v, T v → S v) :
    OnePerIdentity T :=
  fun v w hv hw same => identities v w (some v hv) (some w hw) same

namespace OnePerIdentity

variable {i : Identity}

theorem items (identities : OnePerIdentity S) {xs ys : List Value} (hx : S (.array i xs))
    (hy : S (.array i ys)) : xs = ys := by
  have same := identities _ _ hx hy (by simp [Value.sameIdentity, Value.identity?])
  exact (Value.array.inj same).2

theorem pairs (identities : OnePerIdentity S) {ps qs : Pairs} (hp : S (.hash i ps))
    (hq : S (.hash i qs)) : ps = qs := by
  have same := identities _ _ hp hq (by simp [Value.sameIdentity, Value.identity?])
  exact (Value.hash.inj same).2

/-- Values whose identities have each been given once. -/
theorem of_nodup {values : List Value} (nodup : (values.filterMap Value.identity?).Nodup) :
    OnePerIdentity (· ∈ values) := by
  let One (v w : Value) : Prop := v.sameIdentity w = true → v = w
  have symmetric : Std.Symm One := by
    refine ⟨fun v w one same => (one ?_).symm⟩
    obtain ⟨i, hw, hv⟩ := Value.sameIdentity_iff.1 same
    exact Value.sameIdentity_iff.2 ⟨i, hv, hw⟩
  have apart : values.Pairwise One := by
    refine (List.pairwise_filterMap.1 nodup).imp fun {v w} apart same => ?_
    obtain ⟨i, hv, hw⟩ := Value.sameIdentity_iff.1 same
    exact absurd rfl (apart i hv i hw)
  have itself : ∀ v ∈ values, One v v := fun v hv same => rfl
  intro v w hv hw
  exact apart.forall_of_forall itself hv hw

end OnePerIdentity

end PatternDispatch
