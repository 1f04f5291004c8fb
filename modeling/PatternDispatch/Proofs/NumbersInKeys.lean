import PatternDispatch.Proofs.EqualityLaws
import PatternDispatch.Proofs.SymbolKeys

/-! Numbers in keys. Key equality tells an integer from a float and looks into arrays to do so. What
stands in a range or under the keys of a hash it leaves to equality, which takes `1` for `1.0`. As
long as no float stands there, key equality is strict all the way down, and keys that differ at a
number somewhere inside are two keys of every hash. A float there makes them one. -/
namespace PatternDispatch

namespace Value

/-- What key equality leaves to equality. -/
def loose : Value → List Value
  | .array _ _ => []
  | v => v.contents

theorem loose_eq_contents {v : Value} (noArray : v.items? = none) : v.loose = v.contents := by
  cases v with
  | array id items => cases noArray
  | _ => rfl

theorem loose_subset_contents {u v : Value} (hu : u ∈ v.loose) : u ∈ v.contents := by
  cases v with
  | array id items => cases hu
  | _ => exact hu

/-- Two values that differ at a number: at one place the one has an integer and the other a float.
Places under two keys correspond if the keys are equal, and keys correspond if the others do. -/
inductive DifferAtNumber : Value → Value → Prop where
  | intFloat (n : Int64) (x : Binary64) : DifferAtNumber (.int n) (.float x)
  | floatInt (x : Binary64) (n : Int64) : DifferAtNumber (.float x) (.int n)
  | start {u w : Value} {stop stop' : Option Value} {exclusive exclusive' : Bool}
    (differ : DifferAtNumber u w) :
    DifferAtNumber (.range (some u) stop exclusive) (.range (some w) stop' exclusive')
  | stop {u w : Value} {start start' : Option Value} {exclusive exclusive' : Bool}
    (differ : DifferAtNumber u w) :
    DifferAtNumber (.range start (some u) exclusive) (.range start' (some w) exclusive')
  | item {i j : Identity} {xs ys xs' ys' : List Value} {u w : Value}
    (place : xs.length = ys.length) (differ : DifferAtNumber u w) :
    DifferAtNumber (.array i (xs ++ u :: xs')) (.array j (ys ++ w :: ys'))
  | key {i j : Identity} {ps qs ps' qs' : Pairs} {k l v w : Value}
    (others : ∀ q ∈ qs ++ qs', ∃ p ∈ ps ++ ps', p.1.eql q.1 = true) (differ : DifferAtNumber k l) :
    DifferAtNumber (.hash i (ps ++ (k, v) :: ps')) (.hash j (qs ++ (l, w) :: qs'))
  | value {i j : Identity} {ps qs : Pairs} {k l v w : Value} (hp : (k, v) ∈ ps) (hq : (l, w) ∈ qs)
    (place : k.eql l = true) (differ : DifferAtNumber v w) :
    DifferAtNumber (.hash i ps) (.hash j qs)

end Value

open Value

/-- No float is left to equality. -/
def LooselyFloatFree (S : Value → Prop) : Prop :=
  ∀ v, S v → ∀ u ∈ v.loose, ∀ x, ¬ u.Inside (.float x)

/-- Key equality is strict: values of a kind are equal as keys only if what they are made of is. -/
structure StrictKeys (S : Value → Prop) : Prop where
  range {start stop start' stop' : Option Value} {exclusive exclusive' : Bool}
    (ha : S (.range start stop exclusive)) (hb : S (.range start' stop' exclusive'))
    (h : (Value.range start stop exclusive).eql (.range start' stop' exclusive') = true) :
    exclusive = exclusive' ∧ Option.Rel (fun u w => u.eql w = true) start start' ∧
      Option.Rel (fun u w => u.eql w = true) stop stop'
  array {i j : Identity} {xs ys : List Value} (ha : S (.array i xs)) (hb : S (.array j ys))
    (h : (Value.array i xs).eql (.array j ys) = true) :
    List.Forall₂ (fun u w => u.eql w = true) xs ys
  hash {i j : Identity} {ps qs : Pairs} (ha : S (.hash i ps)) (hb : S (.hash j qs))
    (h : (Value.hash i ps).eql (.hash j qs) = true) :
    ps.length = qs.length ∧
      (∀ p ∈ ps, ∃ q ∈ qs, q.1.eql p.1 = true ∧ q.2.eql p.2 = true) ∧
      ∀ q ∈ qs, ∃ p ∈ ps, p.1.eql q.1 = true ∧ p.2.eql q.2 = true

namespace Population

variable {S : Value → Prop} {a b : Value} {i j : Identity} {ps qs : Pairs}

section

variable (population : Population S) (identities : OnePerIdentity S)
  (exact : LooselyFloatFree S)

include population identities exact

/-- The laws of equality hold wherever key equality relies on them. -/
theorem exists_laws : ∃ K, EqualityOn K ∧ (∀ u, K u → u.beq u = true) ∧
    ∀ v, S v → ∀ u ∈ v.loose, K u := by
  have inS (w : Value) : (∃ v, S v ∧ w ∈ v.loose) → S w := fun ⟨v, hv, hw⟩ =>
    population.parts hv (mem_parts_of_content (loose_subset_contents hw))
  have within := population.within inS
  have floatFree : ∀ x, ¬ ∃ w, (∃ v, S v ∧ w ∈ v.loose) ∧ w.Inside (.float x) :=
    fun x ⟨w, ⟨v, hv, hw⟩, inside⟩ => exact v hv w hw x inside
  refine ⟨_, within.equalityOn ?_ floatFree, fun u => within.beq_self floatFree, ?_⟩
  · exact identities.mono fun u ⟨w, hw, inside⟩ => population.inside (inS w hw) inside
  · exact fun v hv u hu => ⟨u, ⟨v, hv, hu⟩, .here⟩

/-- Every value is the same key as itself. -/
theorem eql_self (ha : S a) : a.eql a = true := by
  obtain ⟨K, laws, self, loose⟩ := population.exists_laws identities exact
  induction a using induction_on_parts with
  | step a ih =>
    have content : ∀ u ∈ a.contents, u.eql u = true := fun u hu =>
      ih u (mem_parts_of_content hu) (population.parts ha (mem_parts_of_content hu))
    have plain (noFloat : a.isFloat = false) (noArray : a.items? = none) : a.eql a = true := by
      have equal := beq_self_of_contents noFloat fun u hu =>
        self u (loose a ha u (loose_eq_contents noArray ▸ hu))
      exact eql_iff.2 (.plain (beq_iff.1 equal) noFloat noFloat noArray)
    cases a with
    | float x => exact eql_iff.2 (.float x)
    | array id items => exact eql_iff.2 (.array (List.forall₂_same.2 content))
    | _ => exact plain rfl rfl

/-- Key equality goes both ways and can be chained. -/
theorem keysAgree : KeysAgree S := by
  suffices ∀ a b c, S a → S b → S c →
      (a.eql b = true → b.eql a = true) ∧
      (a.eql b = true → b.eql c = true → a.eql c = true) from
    { symm := fun {a b} ha hb => (this a b a ha hb ha).1
      trans := fun {a b c} ha hb hc => (this a b c ha hb hc).2 }
  obtain ⟨M, laws, -, loose⟩ := population.exists_laws identities exact
  intro a b c ha hb hc
  induction a, b, c, ha, hb, hc using population.induction₃ with
  | step K a b c ha hb hc inA inB inC inS ih =>
    have keys : KeysAgree K := {
      symm := fun {x y} hx hy => (ih x y x hx hy hx).1
      trans := fun {x y z} hx hy hz => (ih x y z hx hy hz).2 }
    have known {v : Value} (hv : S v) (inV : v.Over K K) (noArray : v.items? = none) :
        v.Over M K :=
      ⟨fun {u} hu => loose v hv u (loose_eq_contents noArray ▸ hu), inV.keys⟩
    constructor
    · intro h
      refine eql_symm_of_contents ?_ (fun noArray noArray' => ?_) h
      · exact fun u hu w hw => keys.symm (inA.contents hu) (inB.contents hw)
      · exact population.beq_symm keys laws.symm ha hb (known ha inA noArray) (known hb inB noArray')
    · intro h h'
      cases eql_iff.1 h with
      | float x => exact h'
      | array items =>
        cases eql_iff.1 h' with
        | array items' =>
          refine eql_iff.2 (.array (forall₂_trans_of_mem ?_ items items'))
          exact fun u hu v hv w hw =>
            keys.trans (inA.contents hu) (inB.contents hv) (inC.contents hw)
        | plain same' left' right' noArray' => cases noArray'
      | plain same left right noArray =>
        have noArray' := same.noArray noArray
        cases eql_iff.1 h' with
        | float x => exact h
        | array items' => cases noArray'
        | plain same' left' right' _ =>
          have noArray'' := same'.noArray noArray'
          have chained := population.beq_trans keys identities laws.trans ha hb hc
            (known ha inA noArray) (known hb inB noArray') (known hc inC noArray'') left right
            (beq_iff.2 same) (beq_iff.2 same')
          exact eql_iff.2 (.plain (beq_iff.1 chained) left right' noArray)

/-- The pairs of hashes that are equal as keys have their likes. -/
theorem likes_of_eql (ha : S (.hash i ps)) (hb : S (.hash j qs))
    (h : (Value.hash i ps).eql (.hash j qs) = true) :
    ps.length = qs.length ∧ ∀ p ∈ ps, ∃ q ∈ qs, q.1.eql p.1 = true ∧ q.2.eql p.2 = true := by
  obtain ⟨M, laws, -, loose⟩ := population.exists_laws identities exact
  have keys := population.keysAgree identities exact
  have inP : (Value.hash i ps).Over M S :=
    ⟨fun hu => loose _ ha _ hu, fun hu => population.parts ha (mem_parts_of_key hu)⟩
  have inQ : (Value.hash j qs).Over M S :=
    ⟨fun hu => loose _ hb _ hu, fun hu => population.parts hb (mem_parts_of_key hu)⟩
  cases eql_iff.1 h with
  | plain same left right noArray =>
    rcases (population.beq_hash_iff keys hb inP.key inQ.key).1 (beq_iff.2 same) with
      rfl | ⟨size, includes⟩
    · obtain rfl := identities.pairs ha hb
      refine ⟨rfl, fun p hp => ⟨p, hp, ?_, ?_⟩⟩
      · exact population.eql_self identities exact (inP.key p hp)
      · exact population.eql_self identities exact
          (population.parts ha (mem_parts_of_content (value_mem_contents hp)))
    · refine ⟨size, fun p hp => ?_⟩
      obtain ⟨q, hq, key, value⟩ := includes p hp
      refine ⟨q, hq, key, ?_⟩
      rw [laws.eql (inQ.value q hq) (inP.value p hp)]
      exact value

theorem strictKeys : StrictKeys S := by
  obtain ⟨M, laws, -, loose⟩ := population.exists_laws identities exact
  have keys := population.keysAgree identities exact
  constructor
  case range =>
    intro start stop start' stop' exclusive exclusive' ha hb h
    have exactly {u w : Value} (hu : u ∈ (Value.range start stop exclusive).contents)
        (hw : w ∈ (Value.range start' stop' exclusive').contents) (equal : u.beq w = true) :
        u.eql w = true := by
      rw [laws.eql (loose _ ha u hu) (loose _ hb w hw)]
      exact equal
    cases eql_iff.1 h with
    | plain same left right noArray =>
      cases same with
      | range exclusive starts stops =>
        refine ⟨rfl, optionRel_imp_of_mem ?_ starts, optionRel_imp_of_mem ?_ stops⟩
        · exact fun u hu w hw => exactly (start_mem_contents hu) (start_mem_contents hw)
        · exact fun u hu w hw => exactly (stop_mem_contents hu) (stop_mem_contents hw)
  case array =>
    intro i j xs ys ha hb h
    cases eql_iff.1 h with
    | array items => exact items
    | plain same left right noArray => cases noArray
  case hash =>
    intro i j ps qs ha hb h
    have there := population.likes_of_eql identities exact ha hb h
    have back := population.likes_of_eql identities exact hb ha (keys.symm ha hb h)
    exact ⟨there.1, there.2, back.2⟩

/-- Values that differ at a number are different keys. -/
theorem eql_of_differ (ha : S a) (hb : S b) (differ : DifferAtNumber a b) : a.eql b = false := by
  have keys := population.keysAgree identities exact
  have strict := population.strictKeys identities exact
  rw [Bool.eq_false_iff]
  intro h
  induction differ with
  | intFloat n x => cases eql_iff.1 h with | plain same left right noArray => cases right
  | floatInt x n => cases eql_iff.1 h with | plain same left right noArray => cases left
  | start differ ih =>
    obtain ⟨-, ⟨equal⟩, -⟩ := strict.range ha hb h
    refine ih (population.parts ha ?_) (population.parts hb ?_) equal
    · exact mem_parts_of_content (start_mem_contents rfl)
    · exact mem_parts_of_content (start_mem_contents rfl)
  | stop differ ih =>
    obtain ⟨-, -, ⟨equal⟩⟩ := strict.range ha hb h
    refine ih (population.parts ha ?_) (population.parts hb ?_) equal
    · exact mem_parts_of_content (stop_mem_contents rfl)
    · exact mem_parts_of_content (stop_mem_contents rfl)
  | @item i j xs ys xs' ys' u w place differ ih =>
    have items := strict.array ha hb h
    have equal : u.eql w = true := by
      have later := List.forall₂_drop xs.length items
      rw [List.drop_left, place, List.drop_left] at later
      exact (List.forall₂_cons.1 later).1
    refine ih (population.parts ha ?_) (population.parts hb ?_) equal
    · exact mem_parts_of_content (List.mem_append_right _ (.head _))
    · exact mem_parts_of_content (List.mem_append_right _ (.head _))
  | @key i j ps qs ps' qs' k l v w others differ ih =>
    have inS : ∀ p ∈ ps ++ (k, v) :: ps', S p.1 := fun p hp =>
      population.parts ha (mem_parts_of_key (key_mem_keys hp))
    have inS' : ∀ q ∈ qs ++ (l, w) :: qs', S q.1 := fun q hq =>
      population.parts hb (mem_parts_of_key (key_mem_keys hq))
    have here : (k, v) ∈ ps ++ (k, v) :: ps' := List.mem_append_right _ (.head _)
    have there : (l, w) ∈ qs ++ (l, w) :: qs' := List.mem_append_right _ (.head _)
    obtain ⟨q, hq, same, -⟩ := (strict.hash ha hb h).2.1 _ here
    have inOthers : q ∈ qs ++ qs' := by
      rcases List.mem_append.1 hq with hq | hq
      · exact List.mem_append_left _ hq
      · rcases List.mem_cons.1 hq with rfl | hq
        · exact (ih (inS _ here) (inS' _ there) (keys.symm (inS' _ there) (inS _ here) same)).elim
        · exact List.mem_append_right _ hq
    obtain ⟨p, hp, equal⟩ := others q inOthers
    -- the key of the left hash would have an equal one beside it
    have distinct := population.distinct ha
    rw [Pairs.Distinct, List.pairwise_append, List.pairwise_cons] at distinct
    obtain ⟨-, ⟨after, -⟩, before⟩ := distinct
    rcases List.mem_append.1 hp with hp | hp
    · have inP := inS p (List.mem_append_left _ hp)
      have twice := keys.trans inP (inS' q hq) (inS _ here) equal same
      cases twice.symm.trans (before p hp _ (.head _))
    · have inP := inS p (List.mem_append_right _ (.tail _ hp))
      have twice := keys.trans inP (inS' q hq) (inS _ here) equal same
      cases (keys.symm inP (inS _ here) twice).symm.trans (after p hp)
  | @value i j ps qs k l v w hp hq place differ ih =>
    have inS' : ∀ q ∈ qs, S q.1 := fun q hq =>
      population.parts hb (mem_parts_of_key (key_mem_keys hq))
    have inK : S k := population.parts ha (mem_parts_of_key (key_mem_keys hp))
    have inV : S v := population.parts ha (mem_parts_of_content (value_mem_contents hp))
    have inW : S w := population.parts hb (mem_parts_of_content (value_mem_contents hq))
    obtain ⟨q, hq', same, equal⟩ := (strict.hash ha hb h).2.1 _ hp
    have one : q = (l, w) := by
      refine (population.distinct hb).unique keys inS' hq' hq ?_
      exact keys.trans (inS' q hq') inK (inS' _ hq) same place
    subst one
    exact ih inV inW (keys.symm inW inV equal)

end

/-- As long as no float is left to equality, key equality is strict at every depth: it holds of
ranges, arrays and hashes only if it holds of what they are made of, and never of two values that
differ at a number. A hash that is given two such keys keeps both, each with its own value, and what
a lookup answers has been stored under a key that does not differ from the one asked for. -/
theorem key_equality_is_strict (population : Population S) (identities : OnePerIdentity S)
    (exact : LooselyFloatFree S) :
    StrictKeys S ∧
    (∀ a b, S a → S b → DifferAtNumber a b → a.eql b = false) ∧
    (∀ id (ps : Pairs) k l v w, S (.hash id ps) → S k → S l → DifferAtNumber k l →
      ((ps.put k v).put l w).get? k = some v ∧ ((ps.put k v).put l w).get? l = some w) ∧
    (∀ id (ps : Pairs) k v, S (.hash id ps) → S k → ps.get? k = some v →
      ∃ p ∈ ps, p.2 = v ∧ ¬ DifferAtNumber p.1 k) := by
  have keys := population.keysAgree identities exact
  have self {a : Value} : S a → a.eql a = true := population.eql_self identities exact
  have apart {a b : Value} : S a → S b → DifferAtNumber a b → a.eql b = false :=
    population.eql_of_differ identities exact
  have stored {id : Identity} {ps : Pairs} (hps : S (.hash id ps)) : ∀ p ∈ ps, S p.1 :=
    fun p hp => population.parts hps (mem_parts_of_key (key_mem_keys hp))
  refine ⟨population.strictKeys identities exact, fun a b => apart, ?_, ?_⟩
  · intro id ps k l v w hps hk hl differ
    have inS : ∀ p ∈ Pairs.put ps k v, S p.1 := by
      intro p hp
      rcases Pairs.mem_put hp with same | ⟨old, there, same⟩
      · exact same ▸ hk
      · exact same ▸ stored hps old there
    have other : l.eql k = false := by
      rw [Bool.eq_false_iff]
      exact fun equal => Bool.eq_false_iff.1 (apart hk hl differ) (keys.symm hl hk equal)
    constructor
    · rw [Pairs.get?_put_of_ne keys inS hk hl other]
      exact Pairs.get?_put_self (self hk)
    · exact Pairs.get?_put_self (self hl)
  · intro id ps k v hps hk found
    obtain ⟨p, hp, equal, value⟩ := Pairs.mem_of_get? found
    refine ⟨p, hp, value, fun differ => ?_⟩
    cases equal.symm.trans (apart (stored hps p hp) hk differ)

end Population

/-- Arrays that differ at their number are two keys. -/
theorem key_equality_is_strict_sample :
    let ps : Pairs := [(.symbol ⟨1⟩, .nil)]
    let whole : Value := .array ⟨2⟩ [.int 1]
    let decimal : Value := .array ⟨3⟩ [.float (.ofInt64 1)]
    whole.eql decimal = false ∧
      ((ps.put whole .nil).put decimal (.bool true)).get? whole = some .nil ∧
      ((ps.put whole .nil).put decimal (.bool true)).get? decimal = some (.bool true) := by
  intro ps whole decimal
  let values := [.hash ⟨1⟩ ps, whole, decimal, .symbol ⟨1⟩, .nil, .int 1, .float (.ofInt64 1)]
  have population : Population (· ∈ values) := by
    apply Population.of_list
    · simp [values, ps, whole, decimal, Value.parts, Value.keys, Value.contents]
    · change ∀ pairs ∈ [ps], pairs = Pairs.ofList pairs
      exact List.forall_mem_singleton.2 rfl
  have identities : OnePerIdentity (· ∈ values) := .of_nodup (by decide)
  have exact : LooselyFloatFree (· ∈ values) := by
    simp only [LooselyFloatFree, values, ps, whole, decimal, loose, contents, List.forall_mem_cons,
      List.map_cons, List.map_nil, List.not_mem_nil, false_implies, implies_true, and_true]
    intro x inside
    cases inside.eq_of_parts rfl
  have differ : DifferAtNumber whole decimal :=
    @DifferAtNumber.item _ _ [] [] [] [] _ _ rfl (.intFloat _ _)
  obtain ⟨-, apart, kept, -⟩ := population.key_equality_is_strict identities exact
  have inWhole : whole ∈ values := .tail _ (.head _)
  have inDecimal : decimal ∈ values := .tail _ (.tail _ (.head _))
  refine ⟨apart _ _ inWhole inDecimal differ, ?_⟩
  exact kept ⟨1⟩ ps _ _ _ _ (.head _) inWhole inDecimal differ

/-- A range with integer bounds and one with float bounds differ at a number and are one key all the
same, and so are hashes with an integer and a float under equal keys. -/
theorem range_keys_merge :
    let whole : Value := .range (some (.int 1)) (some (.int 2)) false
    let decimal : Value :=
      .range (some (.float (.ofInt64 1))) (some (.float (.ofInt64 2))) false
    DifferAtNumber whole decimal ∧ whole.eql decimal = true ∧
    (Value.int 1).eql (.float (.ofInt64 1)) = false ∧
    Pairs.put [(whole, .str "a")] decimal (.str "b") = [(whole, .str "b")] ∧
    Pairs.get? [(whole, .str "a")] decimal = some (.str "a") ∧
    (Value.hash ⟨1⟩ [(.nil, .int 1)]).eql (.hash ⟨2⟩ [(.nil, .float (.ofInt64 1))]) = true := by
  intro whole decimal
  have same : whole.eql decimal = true := by decide +kernel
  refine ⟨.start (.intFloat _ _), same, ?_, ?_, ?_, ?_⟩
  · unfold eql
    rfl
  · simp [Pairs.put, same]
  · simp [Pairs.get?, same]
  · decide +kernel

end PatternDispatch
