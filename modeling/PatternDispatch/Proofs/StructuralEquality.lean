import PatternDispatch.Proofs.EqualityLaws

/-! Equality without identities. An array or a hash equals itself, and equality does not look inside
to find that out. Among values without floats it would have found the same by their contents. -/
namespace PatternDispatch

namespace Value

mutual

/-- Equality by contents, whatever the identities. -/
def alike : Value → Value → Bool
  | .range start stop exclusive, .range start' stop' exclusive' =>
    alikeBound start start' && alikeBound stop stop' && exclusive == exclusive'
  | .array _ xs, .array _ ys => alikeItems xs ys
  | .hash _ ps, .hash _ qs => ps.length == qs.length && alikePairs ps qs
  | a, b => a.beq b
termination_by a b => 2 * (sizeOf a + sizeOf b)

/-- Key equality by contents. -/
def alikeKey : Value → Value → Bool
  | .range start stop exclusive, b => alike (.range start stop exclusive) b
  | .array _ xs, .array _ ys => alikeKeys xs ys
  | .hash id ps, b => alike (.hash id ps) b
  | a, b => a.eql b
termination_by a b => 2 * (sizeOf a + sizeOf b) + 1

def alikeBound : Option Value → Option Value → Bool
  | none, none => true
  | some a, some b => alike a b
  | _, _ => false
termination_by a b => 2 * (sizeOf a + sizeOf b)

def alikeItems : List Value → List Value → Bool
  | [], [] => true
  | x :: xs, y :: ys => alike x y && alikeItems xs ys
  | _, _ => false
termination_by xs ys => 2 * (sizeOf xs + sizeOf ys)

def alikeKeys : List Value → List Value → Bool
  | [], [] => true
  | x :: xs, y :: ys => alikeKey x y && alikeKeys xs ys
  | _, _ => false
termination_by xs ys => 2 * (sizeOf xs + sizeOf ys) + 1

def alikePairs : List (Value × Value) → List (Value × Value) → Bool
  | [], _ => true
  | (k, v) :: ps, qs => alikeEntry k v qs && alikePairs ps qs
termination_by ps qs => 2 * (sizeOf ps + sizeOf qs)

def alikeEntry (k v : Value) : List (Value × Value) → Bool
  | [] => false
  | (k', v') :: qs => if alikeKey k' k then alike v' v else alikeEntry k v qs
termination_by qs => 2 * (sizeOf k + sizeOf v + sizeOf qs)

end

section

variable {start stop : Option Value} {xs ys : List Value} {ps qs : Pairs}

theorem alikeBound_eq (h : ∀ a ∈ start, ∀ b ∈ stop, a.alike b = a.beq b) :
    alikeBound start stop = beqBound start stop := by
  cases start with
  | none => cases stop <;> unfold alikeBound beqBound <;> rfl
  | some a =>
    cases stop with
    | none => unfold alikeBound beqBound; rfl
    | some b => unfold alikeBound beqBound; exact h a rfl b rfl

theorem alikeItems_eq (h : ∀ x ∈ xs, ∀ y ∈ ys, x.alike y = x.beq y) :
    alikeItems xs ys = beqItems xs ys := by
  induction xs generalizing ys with
  | nil => cases ys <;> unfold alikeItems beqItems <;> rfl
  | cons x xs ih =>
    cases ys with
    | nil => unfold alikeItems beqItems; rfl
    | cons y ys =>
      have later := ih fun x' hx y' hy => h x' (.tail x hx) y' (.tail y hy)
      unfold alikeItems beqItems
      rw [h x (.head xs) y (.head ys), later]

theorem alikeKeys_eq (h : ∀ x ∈ xs, ∀ y ∈ ys, x.alikeKey y = x.eql y) :
    alikeKeys xs ys = eqlItems xs ys := by
  induction xs generalizing ys with
  | nil => cases ys <;> unfold alikeKeys eqlItems <;> rfl
  | cons x xs ih =>
    cases ys with
    | nil => unfold alikeKeys eqlItems; rfl
    | cons y ys =>
      have later := ih fun x' hx y' hy => h x' (.tail x hx) y' (.tail y hy)
      unfold alikeKeys eqlItems
      rw [h x (.head xs) y (.head ys), later]

theorem alikeEntry_eq {k v : Value}
    (h : ∀ q ∈ qs, q.1.alikeKey k = q.1.eql k ∧ q.2.alike v = q.2.beq v) :
    alikeEntry k v qs = beqEntry k v qs := by
  induction qs with
  | nil => unfold alikeEntry beqEntry; rfl
  | cons q qs ih =>
    obtain ⟨⟨key, value⟩, later⟩ := List.forall_mem_cons.1 h
    unfold alikeEntry beqEntry
    rw [key, value, ih later]

theorem alikePairs_eq
    (h : ∀ p ∈ ps, ∀ q ∈ qs, q.1.alikeKey p.1 = q.1.eql p.1 ∧ q.2.alike p.2 = q.2.beq p.2) :
    alikePairs ps qs = beqPairs ps qs := by
  induction ps with
  | nil => unfold alikePairs beqPairs; rfl
  | cons p ps ih =>
    obtain ⟨here, later⟩ := List.forall_mem_cons.1 h
    unfold alikePairs beqPairs
    rw [alikeEntry_eq here, ih later]

end

end Value

namespace Population

open Value

variable {S : Value → Prop} {a b : Value}

section

variable (population : Population S) (identities : OnePerIdentity S)
  (floatFree : ∀ x, ¬ S (.float x))

include population floatFree

theorem beqItems_self {xs : List Value} (hx : ∀ x ∈ xs, S x) : beqItems xs xs = true :=
  beqItems_iff.2 (List.forall₂_same.2 fun x inside => population.beq_self floatFree (hx x inside))

include identities

theorem beqPairs_self {i : Identity} {ps : Pairs} (h : S (.hash i ps)) :
    beqPairs ps ps = true := by
  have laws := population.equalityOn identities floatFree
  have inside : (Value.hash i ps).Over S S := .of_parts fun u hu => population.parts h hu
  rw [beqPairs_iff, Pairs.lookups_iff_includes laws.keysAgree (population.distinct h) inside.key
    inside.key]
  intro p hp
  refine ⟨p, hp, ?_, population.beq_self floatFree (inside.value p hp)⟩
  rw [laws.eql (inside.key p hp) (inside.key p hp)]
  exact population.beq_self floatFree (inside.key p hp)

/-- Without floats, identities do not matter to equality. -/
theorem alike_eq_beq (ha : S a) (hb : S b) : a.alike b = a.beq b := by
  have laws := population.equalityOn identities floatFree
  suffices ∀ a b _c, S a → S b → S _c → a.alike b = a.beq b ∧ a.alikeKey b = a.eql b from
    (this a b a ha hb ha).1
  intro a b c ha hb hc
  induction a, b, c, ha, hb, hc using population.induction₃ with
  | step K a b c ha hb hc inA inB inC inS ih =>
    have value {x y : Value} (hx : K x) (hy : K y) : x.alike y = x.beq y := (ih x y x hx hy hx).1
    have key {x y : Value} (hx : K x) (hy : K y) : x.alikeKey y = x.eql y := (ih x y x hx hy hx).2
    have same : a.alike b = a.beq b := by
      unfold alike
      split
      case h_1 =>
        unfold beq
        rw [alikeBound_eq, alikeBound_eq]
        · exact fun x hx y hy => value (inA.stop x hx) (inB.stop y hy)
        · exact fun x hx y hy => value (inA.start x hx) (inB.start y hy)
      case h_2 i xs j ys =>
        have items : alikeItems xs ys = beqItems xs ys :=
          alikeItems_eq fun x hx y hy => value (inA.contents hx) (inB.contents hy)
        unfold beq
        rw [items]
        by_cases one : i = j
        · subst one
          obtain rfl := identities.items ha hb
          have whole : beqItems xs xs = true :=
            population.beqItems_self floatFree fun x hx => inS x (inA.contents hx)
          rw [whole, Bool.or_true]
        · rw [beq_eq_false_iff_ne.2 one, Bool.false_or]
      case h_3 i ps j qs =>
        have pairs : alikePairs ps qs = beqPairs ps qs := alikePairs_eq fun p hp q hq =>
          ⟨key (inB.key q hq) (inA.key p hp), value (inB.value q hq) (inA.value p hp)⟩
        unfold beq
        rw [pairs]
        by_cases one : i = j
        · subst one
          obtain rfl := identities.pairs ha hb
          have whole := population.beqPairs_self identities floatFree ha
          rw [whole, Bool.and_true, beq_self_eq_true, beq_self_eq_true, Bool.or_self]
        · rw [beq_eq_false_iff_ne.2 one, Bool.false_or]
      case h_4 => rfl
    refine ⟨same, ?_⟩
    unfold alikeKey
    split
    case h_1 => rw [same, laws.eql ha hb]
    case h_2 i xs j ys =>
      have items : alikeKeys xs ys = eqlItems xs ys :=
        alikeKeys_eq fun x hx y hy => key (inA.contents hx) (inB.contents hy)
      unfold eql
      exact items
    case h_3 => rw [same, laws.eql ha hb]
    case h_4 => rfl

end

/-- Among values without floats, equality is an equivalence; that arrays and hashes equal themselves
by their identity never changes what their contents say; and key equality is equality. -/
theorem equality_is_equivalence (population : Population S) (identities : OnePerIdentity S)
    (floatFree : ∀ x, ¬ S (.float x)) :
    (∀ a, S a → a.beq a = true) ∧
    (∀ a b, S a → S b → a.beq b = true → b.beq a = true) ∧
    (∀ a b c, S a → S b → S c → a.beq b = true → b.beq c = true → a.beq c = true) ∧
    (∀ a b, S a → S b → a.beq b = a.alike b) ∧
    (∀ a b, S a → S b → a.eql b = a.beq b) := by
  have laws := population.equalityOn identities floatFree
  refine ⟨fun a ha => ?_, fun a b ha hb => ?_, fun a b c ha hb hc => ?_, fun a b ha hb => ?_,
    fun a b ha hb => ?_⟩
  · exact population.beq_self floatFree ha
  · exact laws.symm ha hb
  · exact laws.trans ha hb hc
  · exact (population.alike_eq_beq identities floatFree ha hb).symm
  · exact laws.eql ha hb

end Population

/-- The same pairs in another order. -/
theorem equality_is_equivalence_sample :
    let bounds : Value := .range (some (.int 1)) none false
    let left : Value := .hash ⟨1⟩ [(.symbol ⟨1⟩, .int 2), (bounds, .array ⟨2⟩ [.int 1])]
    let right : Value := .hash ⟨3⟩ [(bounds, .array ⟨4⟩ [.int 1]), (.symbol ⟨1⟩, .int 2)]
    left.beq right = true ∧ right.beq left = true ∧ left.alike right = true ∧
      left.eql right = true := by
  intro bounds left right
  let values := [left, right, bounds, .symbol ⟨1⟩, .int 1, .int 2, .array ⟨2⟩ [.int 1],
    .array ⟨4⟩ [.int 1]]
  have population : Population (· ∈ values) := by
    apply Population.of_list
    · simp [values, left, right, bounds, Value.parts, Value.keys, Value.contents, or_imp,
        forall_and]
    · have apart : (Value.symbol ⟨1⟩).eql bounds = false := by decide +kernel
      have apart' : bounds.eql (.symbol ⟨1⟩) = false := by decide +kernel
      change ∀ pairs ∈ [_, _], pairs = Pairs.ofList pairs
      refine List.forall_mem_cons.2 ⟨?_, List.forall_mem_singleton.2 ?_⟩
      · simp [Pairs.ofList, Pairs.put, apart]
      · simp [Pairs.ofList, Pairs.put, apart']
  have identities : OnePerIdentity (· ∈ values) := .of_nodup (by decide)
  have floatFree : ∀ x, .float x ∉ values := by simp [values, left, right, bounds]
  obtain ⟨-, symm, -, structural, keys⟩ :=
    population.equality_is_equivalence identities floatFree
  have inLeft : left ∈ values := .head _
  have inRight : right ∈ values := .tail _ (.head _)
  have equal : left.beq right = true := by decide +kernel
  refine ⟨equal, symm left right inLeft inRight equal, ?_, ?_⟩
  · exact (structural left right inLeft inRight).symm.trans equal
  · exact (keys left right inLeft inRight).trans equal

end PatternDispatch
