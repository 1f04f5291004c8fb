import PatternDispatch.Proofs.NumbersInKeys

/-! The pairs of a hash as a finite map that keeps the order of insertion, compared with the list of
all insertions. A key is told from those before it by key equality, with the earlier key on the
left. As long as no float is left to equality, a lookup finds what was inserted last under an equal
key. Of a key that has such a float itself less is known: it may equal several keys that differ from
each other, and a lookup finds the one that was inserted first. -/
namespace PatternDispatch

namespace Value

/-- A symbol is found by key equality and by its name alike. -/
theorem eql_symbol_right (k : Value) (n : Name) : k.eql (.symbol n) = (k.symbol? == some n) := by
  rw [Bool.eq_iff_iff, beq_iff_eq, symbol?_eq_some]
  constructor
  · intro equal
    cases eql_iff.1 equal with
    | plain same left right noArray =>
      cases same
      rfl
  · rintro rfl
    exact (eql_symbol n n).trans (beq_self_eq_true n)

end Value

open Value

namespace Pairs

/-- What was inserted last under a key that equals `k`. -/
def last? (inserted : List (Value × Value)) (k : Value) : Option Value :=
  (inserted.reverse.find? fun p => p.1.eql k).map Prod.snd

/-- The keys that no key before them equals; those in `earlier` are before all of them. -/
def newKeys (earlier : List Value) : List Value → List Value
  | [] => []
  | k :: ks =>
    if earlier.any (·.eql k) then newKeys (earlier ++ [k]) ks
    else k :: newKeys (earlier ++ [k]) ks

/-- The keys of first insertions, in their order. -/
def firstKeys (inserted : List (Value × Value)) : List Value := newKeys [] (inserted.map Prod.fst)

/-- A choice of one key for all that are equal to it. -/
structure Represents (chosen keys : List Value) : Prop where
  inside : ∀ k ∈ chosen, k ∈ keys
  apart : chosen.Pairwise fun k l => k.eql l = false
  covers : ∀ l ∈ keys, ∃ k ∈ chosen, k.eql l = true

variable {ps : Pairs} {inserted inserted' : List (Value × Value)} {k v : Value}

theorem getSymbol?_eq_get? (ps : Pairs) (n : Name) : ps.getSymbol? n = ps.get? (.symbol n) := by
  simp only [getSymbol?, get?, eql_symbol_right]

theorem last?_concat (inserted : List (Value × Value)) (p : Value × Value) (k : Value) :
    last? (inserted ++ [p]) k = if p.1.eql k = true then some p.2 else last? inserted k := by
  cases here : p.1.eql k with
  | true => simp [last?, here]
  | false => simp [last?, here]

theorem last?_isSome : (last? inserted k).isSome = true ↔ ∃ p ∈ inserted, p.1.eql k = true := by
  simp [last?, List.find?_isSome]

theorem newKeys_concat (earlier ks : List Value) (k : Value) :
    newKeys earlier (ks ++ [k]) =
      newKeys earlier ks ++ if (earlier ++ ks).any (·.eql k) then [] else [k] := by
  induction ks generalizing earlier with
  | nil =>
    simp only [List.nil_append, newKeys, List.append_nil]
  | cons l ks ih =>
    have later := ih (earlier ++ [l])
    rw [List.append_assoc, List.singleton_append] at later
    cases old : earlier.any (·.eql l) with
    | true => simp only [List.cons_append, newKeys, old, if_true, later]
    | false =>
      simp only [List.cons_append, newKeys, old, Bool.false_eq_true, if_false, later]

theorem firstKeys_concat (inserted : List (Value × Value)) (p : Value × Value) :
    firstKeys (inserted ++ [p]) =
      firstKeys inserted ++ if inserted.any (·.1.eql p.1) then [] else [p.1] := by
  rw [firstKeys, List.map_append, List.map_singleton, newKeys_concat, List.nil_append,
    List.any_map]
  rfl

theorem keys_put (ps : Pairs) (k v : Value) :
    (put ps k v).map Prod.fst = ps.map Prod.fst ++ if ps.any (·.1.eql k) then [] else [k] := by
  rcases put_cases ps k v with ⟨before, l, old, after, rfl, -, found, overwritten⟩ | ⟨absent, added⟩
  · have present : (before ++ (l, old) :: after).any (·.1.eql k) = true :=
      List.any_eq_true.2 ⟨(l, old), List.mem_append_right _ (.head _), found⟩
    rw [overwritten, if_pos present]
    simp
  · have none : ps.any (·.1.eql k) = false := by
      rw [List.any_eq_false]
      exact fun p hp => Bool.eq_false_iff.1 (absent p hp)
    rw [added, none, List.map_append]
    rfl

theorem mem_ofList {p : Value × Value} (hp : p ∈ ofList inserted) : ∃ q ∈ inserted, q.1 = p.1 := by
  induction inserted using List.reverseRecOn generalizing p with
  | nil => cases hp
  | append_singleton inserted q ih =>
    rw [ofList_concat] at hp
    rcases mem_put hp with same | ⟨old, there, same⟩
    · exact ⟨q, List.mem_append_right _ (.head _), same.symm⟩
    · obtain ⟨first, hf, key⟩ := ih there
      exact ⟨first, List.mem_append_left _ hf, key.trans same⟩

/-- A lookup takes the first key that fits, and what is found under that key. -/
theorem get?_eq_bind (found : ∀ p ∈ ps, ps.get? p.1 = some p.2) (k : Value) :
    ps.get? k = ((ps.map Prod.fst).find? (·.eql k)).bind ps.get? := by
  rw [List.find?_map]
  change (ps.find? fun p => p.1.eql k).map Prod.snd =
    ((ps.find? fun p => p.1.eql k).map Prod.fst).bind ps.get?
  cases first : ps.find? fun p => p.1.eql k with
  | none => rfl
  | some p => exact (found p (List.mem_of_find?_eq_some first)).symm

section

variable {K : Value → Prop} (keys : KeysAgree K)

include keys

/-- Equal keys find the same. -/
theorem get?_congr {k' : Value} (hp : ∀ p ∈ ps, K p.1) (hk : K k) (hk' : K k')
    (equal : k.eql k' = true) : ps.get? k = ps.get? k' := by
  induction ps with
  | nil => rfl
  | cons p ps ih =>
    rw [List.forall_mem_cons] at hp
    have same : p.1.eql k = p.1.eql k' := by
      rw [Bool.eq_iff_iff]
      constructor
      · exact fun h => keys.trans hp.1 hk hk' h equal
      · exact fun h => keys.trans hp.1 hk' hk h (keys.symm hk hk' equal)
    have later := ih hp.2
    rw [get?, get?] at later ⊢
    cases here : p.1.eql k with
    | true => simp [here, same ▸ here]
    | false => simpa [here, same ▸ here] using later

variable (self : ∀ k, K k → k.eql k = true) (inK : ∀ p ∈ inserted, K p.1)

include self inK

/-- What an insertion does to lookups is what it does to the last insertions. -/
theorem get?_ofList (hk : K k) : (ofList inserted).get? k = last? inserted k := by
  induction inserted using List.reverseRecOn with
  | nil => rfl
  | append_singleton inserted p ih =>
    have earlier : ∀ q ∈ inserted, K q.1 := fun q hq => inK q (List.mem_append_left _ hq)
    have hp : K p.1 := inK p (List.mem_append_right _ (.head _))
    have stored : ∀ q ∈ ofList inserted, K q.1 := by
      intro q hq
      obtain ⟨first, hf, same⟩ := mem_ofList hq
      exact same ▸ earlier first hf
    have stored' : ∀ q ∈ (ofList inserted).put p.1 p.2, K q.1 := by
      intro q hq
      rcases mem_put hq with same | ⟨old, there, same⟩
      · exact same ▸ hp
      · exact same ▸ stored old there
    rw [ofList_concat, last?_concat]
    cases here : p.1.eql k with
    | true =>
      rw [if_pos rfl, ← get?_congr keys stored' hp hk here]
      exact get?_put_self (self p.1 hp)
    | false =>
      rw [if_neg Bool.false_ne_true, get?_put_of_ne keys stored hk hp here]
      exact ih earlier

theorem keys_ofList : (ofList inserted).map Prod.fst = firstKeys inserted := by
  induction inserted using List.reverseRecOn with
  | nil => rfl
  | append_singleton inserted p ih =>
    have earlier : ∀ q ∈ inserted, K q.1 := fun q hq => inK q (List.mem_append_left _ hq)
    have hp : K p.1 := inK p (List.mem_append_right _ (.head _))
    -- an equal key is stored if and only if one was inserted
    have known : (ofList inserted).any (·.1.eql p.1) = inserted.any (·.1.eql p.1) := by
      have found := get?_ofList keys self earlier hp
      rw [Bool.eq_iff_iff, List.any_eq_true, List.any_eq_true, ← List.find?_isSome,
        ← Option.isSome_map (f := Prod.snd)]
      exact (congrArg (fun o => o.isSome = true) found).to_iff.trans last?_isSome
    rw [ofList_concat, keys_put, firstKeys_concat, ih earlier, known]

theorem represents_ofList :
    Represents ((ofList inserted).map Prod.fst) (inserted.map Prod.fst) where
  inside := by
    intro k hk
    obtain ⟨p, hp, rfl⟩ := List.mem_map.1 hk
    obtain ⟨q, hq, same⟩ := mem_ofList hp
    exact List.mem_map.2 ⟨q, hq, same⟩
  apart := List.pairwise_map.2 (ofList_distinct inserted)
  covers := by
    intro l hl
    obtain ⟨q, hq, rfl⟩ := List.mem_map.1 hl
    have there : ((ofList inserted).get? q.1).isSome = true := by
      rw [get?_ofList keys self inK (inK q hq), last?_isSome]
      exact ⟨q, hq, self q.1 (inK q hq)⟩
    rw [get?, Option.isSome_map, List.find?_isSome] at there
    obtain ⟨p, hp, equal⟩ := there
    exact ⟨p.1, List.mem_map_of_mem hp, equal⟩

end

section

variable {K : Value → Prop} (keys : KeysAgree K) {xs ys : List Value}

include keys

/-- Keys that are told apart and have their likes among others are no more than these. -/
theorem length_le_of_likes (apart : xs.Pairwise fun k l => k.eql l = false)
    (hx : ∀ k ∈ xs, K k) (hy : ∀ l ∈ ys, K l) (likes : ∀ k ∈ xs, ∃ l ∈ ys, l.eql k = true) :
    xs.length ≤ ys.length := by
  have placed : ∀ i : Fin xs.length, ∃ j : Fin ys.length, ys[j].eql xs[i] = true := by
    intro i
    obtain ⟨l, inside, same⟩ := likes xs[i] (List.getElem_mem _)
    obtain ⟨j, hj, rfl⟩ := List.mem_iff_getElem.1 inside
    exact ⟨⟨j, hj⟩, same⟩
  choose like same using placed
  have inX (i : Fin xs.length) : K xs[i] := hx _ (List.getElem_mem _)
  have inY (j : Fin ys.length) : K ys[j] := hy _ (List.getElem_mem _)
  have different (i i' : Fin xs.length) (before : i < i') : xs[i].eql xs[i'] = false :=
    List.pairwise_iff_getElem.1 apart i i' i.2 i'.2 before
  have injective : Function.Injective like := keys.injective_of_likes inX inY different same
  simpa using Fintype.card_le_of_injective like injective

/-- However one key is chosen for all that are equal to it, as many are chosen. -/
theorem Represents.length_eq {ks : List Value} (hx : Represents xs ks) (hy : Represents ys ks)
    (inK : ∀ k ∈ ks, K k) : xs.length = ys.length := by
  have insideX : ∀ k ∈ xs, K k := fun k hk => inK k (hx.inside k hk)
  have insideY : ∀ k ∈ ys, K k := fun k hk => inK k (hy.inside k hk)
  apply Nat.le_antisymm
  · exact length_le_of_likes keys hx.apart insideX insideY fun k hk => hy.covers k (hx.inside k hk)
  · exact length_le_of_likes keys hy.apart insideY insideX fun k hk => hx.covers k (hy.inside k hk)

/-- Every stored pair is found under its own key. -/
theorem get?_of_mem (self : ∀ k, K k → k.eql k = true) (distinct : ps.Distinct)
    (inK : ∀ p ∈ ps, K p.1) : ∀ p ∈ ps, ps.get? p.1 = some p.2 := by
  intro p hp
  exact (get?_eq_some keys distinct inK (inK p hp)).2 ⟨p, hp, self p.1 (inK p hp), rfl⟩

/-- Hashes in which all keys find equal values are equal, whatever the order of their pairs. -/
theorem beq_of_lookups (self : ∀ k, K k → k.eql k = true) {qs : Pairs} (distinct : ps.Distinct)
    (distinct' : qs.Distinct) (hp : ∀ p ∈ ps, K p.1) (hq : ∀ q ∈ qs, K q.1)
    (same : ∀ k, K k → Option.Rel (fun v w => w.beq v = true) (ps.get? k) (qs.get? k))
    (i j : Identity) : (Value.hash i ps).beq (.hash j qs) = true := by
  have found : ∀ p ∈ ps, ∃ v, qs.get? p.1 = some v ∧ v.beq p.2 = true := by
    intro p inside
    have there := same p.1 (hp p inside)
    rw [get?_of_mem keys self distinct hp p inside] at there
    generalize qs.get? p.1 = answer at there
    cases there with
    | some equal => exact ⟨_, rfl, equal⟩
  have found' : ∀ q ∈ qs, ∃ v, ps.get? q.1 = some v := by
    intro q inside
    have there := same q.1 (hq q inside)
    rw [get?_of_mem keys self distinct' hq q inside] at there
    generalize ps.get? q.1 = answer at there
    cases there with
    | some equal => exact ⟨_, rfl⟩
  have keyOf {rs : Pairs} {k v : Value} (h : rs.get? k = some v) :
      ∃ l ∈ rs.map Prod.fst, l.eql k = true := by
    obtain ⟨r, hr, equal, -⟩ := mem_of_get? h
    exact ⟨r.1, List.mem_map_of_mem hr, equal⟩
  have size : ps.length = qs.length := by
    have inP : ∀ k ∈ ps.map Prod.fst, K k := List.forall_mem_map.2 hp
    have inQ : ∀ k ∈ qs.map Prod.fst, K k := List.forall_mem_map.2 hq
    have there := length_le_of_likes keys (List.pairwise_map.2 distinct) inP inQ
      (List.forall_mem_map.2 fun p inside => (found p inside).elim fun v h => keyOf h.1)
    have back := length_le_of_likes keys (List.pairwise_map.2 distinct') inQ inP
      (List.forall_mem_map.2 fun q inside => (found' q inside).elim fun v h => keyOf h)
    simp only [List.length_map] at there back
    omega
  exact beq_iff.2 (.hash (.inr ⟨size, found⟩))

end

end Pairs

namespace Population

variable {S : Value → Prop}

/-- Pairs that have been inserted one by one are a finite map in the order of insertion, as long as
no float is left to equality among the keys. A key among them finds what was inserted last under an
equal key. Whatever other key is looked up finds what was inserted last under the first of the
stored keys that equals it. No two keys are equal; they are those of the first insertions, in this
order, and as many as there are keys to be told apart. Symbols are found by name as well. Inserting
the pairs again changes nothing. If no float is among the keys and values at all, insertions that
leave equal values last under all keys make equal hashes. -/
theorem insertions_make_map (population : Population S) (identities : OnePerIdentity S)
    (exact : LooselyFloatFree S) (inserted : List (Value × Value))
    (inS : ∀ p ∈ inserted, S p.1) :
    let pairs := Pairs.ofList inserted
    (∀ k, S k → pairs.get? k = Pairs.last? inserted k) ∧
    (∀ k, pairs.get? k =
      ((Pairs.firstKeys inserted).find? (·.eql k)).bind (Pairs.last? inserted)) ∧
    pairs.Pairwise (fun p q => p.1.eql q.1 = false ∧ q.1.eql p.1 = false) ∧
    pairs.map Prod.fst = Pairs.firstKeys inserted ∧
    (∀ chosen, Pairs.Represents chosen (inserted.map Prod.fst) → pairs.length = chosen.length) ∧
    (∀ n, pairs.getSymbol? n = pairs.get? (.symbol n)) ∧
    Pairs.ofList pairs = pairs ∧
    ((∀ x, ¬ S (.float x)) → (∀ p ∈ inserted, S p.2) →
      ∀ inserted', (∀ p ∈ inserted', S p.1 ∧ S p.2) →
        (∀ k, S k → Option.Rel (fun v w => v.beq w = true) (Pairs.last? inserted k)
          (Pairs.last? inserted' k)) →
        ∀ i j, (Value.hash i pairs).beq (.hash j (Pairs.ofList inserted')) = true) := by
  intro pairs
  have keys := population.keysAgree identities exact
  have self : ∀ k, S k → k.eql k = true := fun k hk => population.eql_self identities exact hk
  have distinct : pairs.Distinct := Pairs.ofList_distinct inserted
  have inKeys : ∀ k ∈ inserted.map Prod.fst, S k := List.forall_mem_map.2 inS
  have stored {entries : List (Value × Value)} (h : ∀ p ∈ entries, S p.1) :
      ∀ p ∈ Pairs.ofList entries, S p.1 := by
    intro p hp
    obtain ⟨q, hq, same⟩ := Pairs.mem_ofList hp
    exact same ▸ h q hq
  have found (k : Value) (hk : S k) : pairs.get? k = Pairs.last? inserted k :=
    Pairs.get?_ofList keys self inS hk
  have order : pairs.map Prod.fst = Pairs.firstKeys inserted := Pairs.keys_ofList keys self inS
  refine ⟨found, ?_, ?_, order, ?_, Pairs.getSymbol?_eq_get? pairs,
    Pairs.ofList_of_distinct distinct, ?_⟩
  · intro k
    rw [Pairs.get?_eq_bind (Pairs.get?_of_mem keys self distinct (stored inS)), order]
    cases first : (Pairs.firstKeys inserted).find? (·.eql k) with
    | none => rfl
    | some l =>
      have hl : l ∈ pairs.map Prod.fst := order ▸ List.mem_of_find?_eq_some first
      exact found l (List.forall_mem_map.2 (stored inS) l hl)
  · refine distinct.imp_of_mem fun {p q} hp hq apart => ⟨apart, ?_⟩
    rw [Bool.eq_false_iff] at apart ⊢
    exact fun equal => apart (keys.symm (stored inS q hq) (stored inS p hp) equal)
  · intro chosen represents
    rw [← List.length_map Prod.fst]
    exact (Pairs.represents_ofList keys self inS).length_eq keys represents inKeys
  · intro floatFree values inserted' inS' same i j
    have laws := population.equalityOn identities floatFree
    refine Pairs.beq_of_lookups keys self distinct (Pairs.ofList_distinct inserted') (stored inS)
      (stored fun p hp => (inS' p hp).1) (fun k hk => ?_) i j
    rw [found k hk, Pairs.get?_ofList keys self (fun p hp => (inS' p hp).1) hk]
    refine optionRel_imp_of_mem (fun v hv w hw => ?_) (same k hk)
    obtain ⟨p, hp, rfl⟩ := Option.map_eq_some_iff.1 hv
    obtain ⟨q, hq, rfl⟩ := Option.map_eq_some_iff.1 hw
    have hp := List.mem_reverse.1 (List.mem_of_find?_eq_some hp)
    have hq := List.mem_reverse.1 (List.mem_of_find?_eq_some hq)
    exact laws.symm (values p hp) (inS' q hq).2

end Population

/-- A key that is inserted twice keeps its place and has its last value; the other order of the keys
makes an equal hash. -/
theorem insertions_make_map_sample :
    let range : Value := .range none none true
    let first : List (Value × Value) := [(range, .nil), (.str "a", .nil), (range, .bool true)]
    let second : List (Value × Value) := [(.str "a", .nil), (range, .bool true)]
    (Pairs.ofList first).get? range = some (.bool true) ∧
      (Pairs.ofList first).map Prod.fst = [range, .str "a"] ∧
      (Value.hash ⟨1⟩ (Pairs.ofList first)).beq (.hash ⟨2⟩ (Pairs.ofList second)) = true := by
  intro range first second
  let values := [range, .str "a", .nil, .bool true]
  have population : Population (· ∈ values) := by
    apply Population.of_list
    · simp [values, range, Value.parts, Value.keys, Value.contents]
    · exact List.forall_mem_nil _
  have identities : OnePerIdentity (· ∈ values) := .of_nodup (by decide)
  have exact : LooselyFloatFree (· ∈ values) := by
    simp [LooselyFloatFree, values, range, loose, contents]
  have self : range.eql range = true := by decide +kernel
  have apart : range.eql (.str "a") = false := by decide +kernel
  have inS : ∀ p ∈ first, p.1 ∈ values := by simp [first, values]
  obtain ⟨found, -, -, order, -, -, -, equal⟩ :=
    population.insertions_make_map identities exact first inS
  refine ⟨?_, ?_, ?_⟩
  · rw [found range (.head _)]
    simp [Pairs.last?, first, self]
  · rw [order]
    simp [Pairs.firstKeys, Pairs.newKeys, first, self, apart]
  · apply equal
    · simp [values, range]
    · simp [first, values]
    · simp [second, values]
    · intro k hk
      simp only [values, List.mem_cons, List.not_mem_nil, or_false] at hk
      have text' : (Value.str "a").eql (.str "a") = true := by decide +kernel
      have truth : (Value.bool true).beq (.bool true) = true := by decide +kernel
      have nothing : Value.nil.beq .nil = true := by decide +kernel
      have other : ∀ l ∈ [range, .str "a"], l.eql .nil = false ∧ l.eql (.bool true) = false := by
        decide +kernel
      simp only [List.forall_mem_cons] at other
      obtain ⟨⟨rangeNil, rangeTrue⟩, ⟨textNil, textTrue⟩, -⟩ := other
      rcases hk with rfl | rfl | rfl | rfl
      · simp [Pairs.last?, first, second, self, truth]
      · simp [Pairs.last?, first, second, apart, text', nothing]
      · simp [Pairs.last?, first, second, rangeNil, textNil]
      · simp [Pairs.last?, first, second, rangeTrue, textTrue]

/-- Two ranges from large integers that differ are two keys, and the range from the float nearest to
both equals either. A lookup of it finds the key inserted first, and not the one inserted last. -/
theorem loose_lookup_finds_first :
    let even : Value := .range (some (.int 9007199254740992)) none false
    let odd : Value := .range (some (.int 9007199254740993)) none false
    let float : Value := .range (some (.float (.ofInt64 9007199254740992))) none false
    let inserted : List (Value × Value) := [(even, .str "a"), (odd, .str "b")]
    (∀ p ∈ inserted, ∀ x, ¬ p.1.Inside (.float x)) ∧
    (Pairs.ofList inserted).get? float = some (.str "a") ∧
    Pairs.last? inserted float = some (.str "b") := by
  intro even odd float inserted
  have apart : even.eql odd = false := by decide +kernel
  have there : even.eql float = true := by decide +kernel
  have there' : odd.eql float = true := by decide +kernel
  refine ⟨?_, ?_, ?_⟩
  · let values := [even, odd, .int 9007199254740992, .int 9007199254740993]
    have population : Population (· ∈ values) := by
      apply Population.of_list
      · simp [values, even, odd, Value.parts, Value.keys, Value.contents]
      · exact List.forall_mem_nil _
    intro p hp x inside
    have inValues : p.1 ∈ values := by
      simp only [inserted, List.mem_cons, List.not_mem_nil, or_false] at hp
      rcases hp with rfl | rfl
      · exact .head _
      · exact .tail _ (.head _)
    have float := population.inside inValues inside
    simp [values, even, odd] at float
  · simp [Pairs.ofList, Pairs.put, Pairs.get?, inserted, apart, there]
  · simp [Pairs.last?, inserted, there']

end PatternDispatch
