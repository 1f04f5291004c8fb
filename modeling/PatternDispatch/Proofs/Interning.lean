import Mathlib.Data.List.Dedup
import Mathlib.Data.List.Induction
import Mathlib.Data.List.Perm.Subperm
import PatternDispatch.Name

/-! Calls on an interner. Names and interned texts are in bijection at every moment: the names are
the numbers in use, in the order in which their texts first appeared, and neither side of a pair
changes later. An interner may keep its pairs twice, as a map from texts to numbers and as a table of
texts by number; a text that is new is added to both, and both keep saying the same. -/
namespace PatternDispatch

/-- A call on an interner. -/
inductive InternerCall where
  | intern (s : String)
  | get (s : String)

namespace InternerCall

def text : InternerCall → String
  | .intern s => s
  | .get s => s

/-- The text that a call adds if it is new. -/
def interned? : InternerCall → Option String
  | .intern s => some s
  | .get _ => none

/-- The texts there are after some calls, in order of first appearance. The empty text is there from
the start. -/
def appeared (calls : List InternerCall) : List String :=
  ("" :: calls.filterMap interned?).eraseDups

end InternerCall

/-- Whatever answers the calls on an interner, with its state `τ`. -/
structure Interning (τ : Type) where
  intern : τ → String → Except CapacityError (Name × τ)
  get? : τ → String → Option Name

namespace Interning

variable {τ υ α : Type}

/-- One call: the name answered, if there is one, and the state after it. -/
def call (i : Interning τ) (t : τ) : InternerCall → Except CapacityError (Option Name × τ)
  | .intern s => (i.intern t s).map fun r => (some r.1, r.2)
  | .get s => .ok (i.get? t s, t)

/-- Calls in order, with their answers. -/
def run (i : Interning τ) (t : τ) :
    List InternerCall → Except CapacityError (List (Option Name) × τ)
  | [] => .ok ([], t)
  | c :: calls =>
    match i.call t c with
    | .error error => .error error
    | .ok (a, t') => (i.run t' calls).map fun r => (a :: r.1, r.2)

/-- The same answer or the same error, and states that belong together. -/
inductive Together (R : τ → υ → Prop) :
    Except CapacityError (α × τ) → Except CapacityError (α × υ) → Prop where
  | failed (error : CapacityError) : Together R (.error error) (.error error)
  | answered (a : α) {t : τ} {u : υ} (h : R t u) : Together R (.ok (a, t)) (.ok (a, u))

variable {R : τ → υ → Prop} {i : Interning τ} {j : Interning υ}

theorem Together.map {β : Type} {x : Except CapacityError (α × τ)}
    {y : Except CapacityError (α × υ)} (h : Together R x y) (f : α → β) :
    Together R (x.map fun r => (f r.1, r.2)) (y.map fun r => (f r.1, r.2)) := by
  cases h with
  | failed error => exact .failed error
  | answered a h => exact .answered (f a) h

theorem Together.of_ok {x : Except CapacityError (α × τ)} {a : α} {u : υ}
    (h : Together R x (.ok (a, u))) : ∃ t, x = .ok (a, t) ∧ R t u := by
  cases h with
  | answered _ h => exact ⟨_, rfl, h⟩

/-- Calls that go together one by one go together in a run. -/
theorem run_together (step : ∀ c t u, R t u → Together R (i.call t c) (j.call u c))
    (calls : List InternerCall) {t : τ} {u : υ} (h : R t u) :
    Together R (i.run t calls) (j.run u calls) := by
  induction calls generalizing t u with
  | nil => exact .answered [] h
  | cons c calls ih =>
    have first := step c t u h
    rw [run, run]
    generalize i.call t c = x at first ⊢
    generalize j.call u c = y at first ⊢
    cases first with
    | failed error => exact .failed error
    | answered a h => exact (ih h).map (a :: ·)

theorem run_cons {c : InternerCall} {calls : List InternerCall} {t t₁ t' : τ} {a : Option Name}
    {answers : List (Option Name)} (first : i.call t c = .ok (a, t₁))
    (rest : i.run t₁ calls = .ok (answers, t')) : i.run t (c :: calls) = .ok (a :: answers, t') := by
  rw [run, first]
  simp only [rest]
  rfl

end Interning

namespace Interner

/-- An interner as it stands. -/
def interning : Interning Interner := ⟨intern, get?⟩

variable {t t' : Interner} {s : String} {n : Name}

/-- Texts and names are found from each other. -/
theorem get?_eq_some_iff : t.get? s = some n ↔ t.lookup? n = some s := by
  refine ⟨lookup?_of_get?, fun found => ?_⟩
  obtain ⟨inside, rfl⟩ := List.getElem?_eq_some_iff.1 found
  rw [get?, if_pos (List.getElem_mem inside), t.nodup.idxOf_getElem n.index inside]

theorem mem_texts_iff : s ∈ t.texts ↔ ∃ n, t.get? s = some n := by
  rw [← Option.ne_none_iff_exists', ne_eq, get?_eq_none_iff, not_not]

/-- The numbers in use are those below the size. -/
theorem lookup?_isSome_iff : (∃ s, t.lookup? n = some s) ↔ n.index < t.size := by
  rw [← Option.isSome_iff_exists, lookup?, isSome_getElem?]
  rfl

/-- Interning a text again changes nothing. -/
theorem intern_of_get? (known : t.get? s = some n) : t.intern s = .ok (n, t) := by
  have inside : s ∈ t.texts := mem_texts_iff.2 ⟨n, known⟩
  rw [get?, if_pos inside] at known
  rw [intern, dif_pos inside, Option.some.inj known]

/-- A new text goes to the end. -/
theorem get?_push (new : s ∉ t.texts) : (t.push s new).get? s = some ⟨t.size⟩ := by
  rw [get?_eq_some_iff]
  exact List.getElem?_concat_length

/-- Texts keep their names. -/
theorem get?_of_prefix (grown : t.texts <+: t'.texts) (known : t.get? s = some n) :
    t'.get? s = some n := by
  rw [get?_eq_some_iff] at known ⊢
  obtain ⟨rest, grown⟩ := grown
  obtain ⟨inside, -⟩ := List.getElem?_eq_some_iff.1 known
  rw [lookup?, ← grown, List.getElem?_append_left inside]
  exact known

theorem get?_push_of_ne {s' : String} (new : s ∉ t.texts) (other : s' ≠ s) :
    (t.push s new).get? s' = t.get? s' := by
  cases known : t.get? s' with
  | some n => exact get?_of_prefix (List.prefix_append t.texts [s]) known
  | none =>
    rw [get?_eq_none_iff] at known ⊢
    intro inside
    rcases List.mem_append.1 inside with old | added
    · exact known old
    · exact other (List.mem_singleton.1 added)

end Interner

namespace InternerCall

theorem appeared_append (calls later : List InternerCall) :
    appeared (calls ++ later) = appeared calls ++
      ((later.filterMap interned?).removeAll ("" :: calls.filterMap interned?)).eraseDups := by
  rw [appeared, List.filterMap_append, ← List.cons_append, List.eraseDups_append]
  rfl

theorem appeared_prefix (calls later : List InternerCall) :
    appeared calls <+: appeared (calls ++ later) :=
  ⟨_, (appeared_append calls later).symm⟩

/-- A call that interns nothing new leaves the texts as they are. -/
theorem appeared_known {calls : List InternerCall} {c : InternerCall}
    (known : ∀ s ∈ c.interned?, s ∈ appeared calls) : appeared (calls ++ [c]) = appeared calls := by
  cases c with
  | get s => rw [appeared_append]; exact List.append_nil _
  | intern s =>
    have inside : s ∈ "" :: calls.filterMap interned? := List.mem_eraseDups.1 (known s rfl)
    rw [appeared_append]
    change _ ++ (List.removeAll [s] _).eraseDups = _
    rw [List.cons_removeAll, if_neg (by simp [inside])]
    exact List.append_nil _

/-- A new text appears last. -/
theorem appeared_new {calls : List InternerCall} {s : String} (new : s ∉ appeared calls) :
    appeared (calls ++ [.intern s]) = appeared calls ++ [s] := by
  have outside : s ∉ "" :: calls.filterMap interned? := fun inside =>
    new (List.mem_eraseDups.2 inside)
  rw [appeared_append]
  change _ ++ (List.removeAll [s] _).eraseDups = _
  rw [List.cons_removeAll, if_pos (by simp [outside])]
  rfl

theorem appeared_nodup (calls : List InternerCall) : (appeared calls).Nodup := by
  induction calls using List.reverseRecOn with
  | nil => exact List.nodup_singleton ""
  | append_singleton calls c ih =>
    by_cases known : ∀ s ∈ c.interned?, s ∈ appeared calls
    · rw [appeared_known known]
      exact ih
    · cases c with
      | get s => exact absurd (fun _ none => by cases none) known
      | intern s =>
        have new : s ∉ appeared calls := fun inside => known (by rintro s' ⟨⟩; exact inside)
        rw [appeared_new new]
        exact List.concat_eq_append ▸ ih.concat new

/-- The empty text takes one place at most. -/
theorem length_appeared_le (calls : List InternerCall) :
    (appeared calls).length ≤ (calls.filterMap interned?).dedup.length + 1 := by
  have inside : appeared calls ⊆ "" :: (calls.filterMap interned?).dedup := by
    intro s appears
    rcases List.mem_cons.1 (List.mem_eraseDups.1 appears) with rfl | interned
    · exact List.mem_cons_self
    · exact List.mem_cons_of_mem _ (List.mem_dedup.2 interned)
  exact (List.subperm_of_subset (appeared_nodup calls) inside).length_le

end InternerCall

namespace Interner

open InternerCall

variable {t : Interner} {done : List InternerCall}

/-- A call that interns nothing new changes nothing. -/
theorem call_of_known {c : InternerCall} (known : ∀ s ∈ c.interned?, s ∈ t.texts) :
    interning.call t c = .ok (t.get? c.text, t) := by
  cases c with
  | get s => rfl
  | intern s =>
    obtain ⟨n, named⟩ := mem_texts_iff.1 (known s rfl)
    change (t.intern s).map _ = _
    rw [intern_of_get? named, InternerCall.text, named]
    rfl

/-- A call that interns something new appends it, if there is room. -/
theorem call_of_new {s : String} (new : s ∉ t.texts) (room : t.size < capacity) :
    interning.call t (.intern s) = .ok ((t.push s new).get? s, t.push s new) := by
  change (t.intern s).map _ = _
  rw [intern, dif_neg new, if_pos room, get?_push new]
  rfl

/-- One call: the texts stay those that have appeared, and the answer is the name of its text. -/
theorem call_appeared (kept : t.texts = appeared done) (c : InternerCall)
    (room : (appeared (done ++ [c])).length ≤ capacity) :
    ∃ t', interning.call t c = .ok (t'.get? c.text, t') ∧ t'.texts = appeared (done ++ [c]) := by
  by_cases known : ∀ s ∈ c.interned?, s ∈ t.texts
  · refine ⟨t, call_of_known known, ?_⟩
    rw [kept] at known ⊢
    exact (appeared_known known).symm
  · cases c with
    | get s => exact absurd (fun _ none => by cases none) known
    | intern s =>
      have new : s ∉ t.texts := fun inside => known (by rintro s' ⟨⟩; exact inside)
      have longer : t.texts ++ [s] = appeared (done ++ [.intern s]) := by
        rw [appeared_new (kept ▸ new), kept]
      refine ⟨t.push s new, call_of_new new ?_, longer⟩
      rw [← longer, List.length_append] at room
      exact room

/-- A run: every call is answered the name that its text has in the end, if the text had appeared by
then. -/
theorem run_appeared (done calls : List InternerCall) (kept : t.texts = appeared done)
    (room : (appeared (done ++ calls)).length ≤ capacity) :
    ∃ answers t', interning.run t calls = .ok (answers, t') ∧ t'.texts = appeared (done ++ calls) ∧
      ∀ before c later, calls = before ++ c :: later →
        answers[before.length]? =
          some (if c.text ∈ appeared (done ++ before ++ [c]) then t'.get? c.text else none) := by
  induction calls generalizing done t with
  | nil =>
    refine ⟨[], t, rfl, by rw [kept, List.append_nil], fun before c later split => ?_⟩
    simp at split
  | cons c calls ih =>
    have whole : done ++ c :: calls = done ++ [c] ++ calls := by simp
    rw [whole] at room ⊢
    have grown := appeared_prefix (done ++ [c]) calls
    obtain ⟨t₁, called, kept₁⟩ := call_appeared kept c (Nat.le_trans grown.length_le room)
    obtain ⟨answers, t', ran, kept', each⟩ := ih (done ++ [c]) kept₁ room
    refine ⟨_, t', Interning.run_cons called ran, kept', fun before c' later split => ?_⟩
    cases before with
    | nil =>
      obtain ⟨rfl, -⟩ := List.cons.inj split
      rw [List.append_nil]
      refine congrArg some ?_
      split
      · next appears =>
        rw [← kept₁, mem_texts_iff] at appears
        obtain ⟨n, named⟩ := appears
        rw [named, get?_of_prefix (by rw [kept₁, kept']; exact grown) named]
      · next absent => rw [get?_eq_none_iff, kept₁]; exact absent
    | cons first before =>
      obtain ⟨rfl, rest⟩ := List.cons.inj split
      have place : done ++ c :: before = done ++ [c] ++ before := by simp
      rw [place]
      exact each before c' later rest

end Interner

namespace InternTable

/-- A pair of tables as it stands. -/
def interning : Interning InternTable := ⟨intern, get?⟩

/-- Both sides hold the pairs of an interner. -/
structure Represents (table : InternTable) (t : Interner) : Prop where
  strings : table.strings.toList = t.texts
  indices : ∀ s, table.get? s = t.get? s

/-- The two sides are inverse to each other. -/
theorem Represents.inverse {table : InternTable} {t : Interner} (h : table.Represents t)
    (s : String) (i : Nat) : table.indices[s]? = some i ↔ table.strings[i]? = some s := by
  have named : table.indices[s]? = some i ↔ table.get? s = some ⟨i⟩ := by
    rw [get?, Option.map_eq_some_iff]
    constructor
    · exact fun found => ⟨i, found, rfl⟩
    · rintro ⟨j, found, same⟩
      cases same
      exact found
  rw [named, h.indices, Interner.get?_eq_some_iff, Interner.lookup?, ← h.strings,
    Array.getElem?_toList]

theorem represents_new : new.Represents .new := by
  refine ⟨rfl, fun s => ?_⟩
  by_cases same : s = ""
  · subst same
    simp [new, get?, Interner.get?, Interner.new]
  · simp [new, get?, Interner.get?, Interner.new, same, Ne.symm same]

/-- Each call goes the same way on both, also when there is no room. -/
theorem call_together (c : InternerCall) (table : InternTable) (t : Interner)
    (h : table.Represents t) :
    Interning.Together Represents (interning.call table c) (Interner.interning.call t c) := by
  cases c with
  | get s =>
    have answer : interning.call table (.get s) = .ok (t.get? s, table) :=
      congrArg (fun a => Except.ok (a, table)) (h.indices s)
    rw [answer]
    exact .answered (t.get? s) h
  | intern s =>
    refine Interning.Together.map ?_ some
    change Interning.Together Represents (table.intern s) (t.intern s)
    have known := h.indices s
    have size : table.strings.size = t.size := by
      rw [Interner.size, ← h.strings, Array.length_toList]
    rw [intern]
    cases found : table.indices[s]? with
    | some i =>
      rw [get?, found] at known
      rw [Interner.intern_of_get? known.symm]
      exact .answered (Name.mk i) h
    | none =>
      rw [get?, found] at known
      have new : s ∉ t.texts := (t.get?_eq_none_iff s).1 known.symm
      rw [Interner.intern, dif_neg new]
      simp only [size]
      split
      · refine .answered (Name.mk t.size) ⟨?_, fun s' => ?_⟩
        · rw [Array.toList_push, h.strings]
          rfl
        · rw [get?, Std.HashMap.getElem?_insert]
          by_cases same : s = s'
          · subst same
            rw [if_pos (beq_self_eq_true s), Interner.get?_push new]
            rfl
          · rw [if_neg (by simpa using same), Interner.get?_push_of_ne new (Ne.symm same)]
            exact h.indices s'
      · exact .failed _

end InternTable

namespace Interner

open InternerCall

/-- The names of an interner number some texts, in their order: the two go to and fro. -/
structure Numbers (t : Interner) (texts : List String) : Prop where
  size : t.size = texts.length
  lookup (i : Nat) : t.lookup? ⟨i⟩ = texts[i]?
  empty : t.get? "" = some .empty
  named (s : String) : s ∈ texts ↔ ∃ n, t.get? s = some n
  inverse (s : String) (n : Name) : t.get? s = some n ↔ t.lookup? n = some s
  equal (s s' : String) (n n' : Name) (named : t.get? s = some n) (named' : t.get? s' = some n') :
    n = n' ↔ s = s'
  /-- The names are the numbers below the size. -/
  inUse (n : Name) : (∃ s, t.get? s = some n) ↔ n.index < t.size

theorem numbers_texts (t : Interner) : t.Numbers t.texts where
  size := rfl
  lookup _ := rfl
  empty := get?_eq_some_iff.2 t.empty_first
  named _ := mem_texts_iff
  inverse _ _ := get?_eq_some_iff
  equal s s' n n' named named' := by
    rw [get?_eq_some_iff] at named named'
    constructor
    · rintro rfl
      exact Option.some.inj (named.symm.trans named')
    · rintro rfl
      exact Option.some.inj ((get?_eq_some_iff.2 named).symm.trans (get?_eq_some_iff.2 named'))
  inUse n := by
    rw [← lookup?_isSome_iff]
    exact exists_congr fun s => get?_eq_some_iff

/-- What calls on a new interner come to: their answers, and what is left of an interner that keeps
its pairs once and of one that keeps them twice. -/
structure StableBijection (calls : List InternerCall) (answers : List (Option Name)) (t : Interner)
    (table : InternTable) : Prop where
  once : interning.run new calls = .ok (answers, t)
  twice : InternTable.interning.run .new calls = .ok (answers, table)
  /-- The two sides of the pair of tables are inverse to each other. -/
  sides (s : String) (i : Nat) : table.indices[s]? = some i ↔ table.strings[i]? = some s
  indices (s : String) : table.get? s = t.get? s
  strings (i : Nat) : table.strings[i]? = t.lookup? ⟨i⟩
  /-- Texts are numbered in the order in which they appeared. -/
  numbers : t.Numbers (appeared calls)
  /-- What does not add a text changes nothing. -/
  unchanged (c : InternerCall) (known : ∀ s ∈ c.interned?, s ∈ appeared calls) :
    interning.call t c = .ok (t.get? c.text, t)
  /-- Every answer was the name that its text has in the end, if the text had appeared by then. -/
  answered (before : List InternerCall) (c : InternerCall) (later : List InternerCall)
    (split : calls = before ++ c :: later) : answers[before.length]? =
      some (if c.text ∈ appeared (before ++ [c]) then t.get? c.text else none)
  /-- Every name had the text that it has in the end. -/
  kept (before later : List InternerCall) (split : calls = before ++ later) : ∃ earlier t₀,
    interning.run new before = .ok (earlier, t₀) ∧
      ∀ n s, t₀.lookup? n = some s → t.lookup? n = some s

/-- Calls that intern fewer than `2 ^ 32` distinct texts all succeed, on an interner that keeps its
pairs once as on one that keeps them twice, and with the same answers. In the end the texts that have
appeared are numbered in the order in which they did, the empty one first, and the numbers in use are
their names: each text is found from its name and its name from it, by the two sides of the pair of
tables as well. Every answer on the way was the name that its text has in the end, and every name
had the text that it has in the end. What does not add a text changes nothing. -/
theorem interning_is_stable_bijection (calls : List InternerCall)
    (few : (calls.filterMap interned?).dedup.length < capacity) :
    ∃ answers t table, StableBijection calls answers t table := by
  have room : (appeared calls).length ≤ capacity := Nat.le_trans (length_appeared_le calls) few
  have start : new.texts = appeared [] := rfl
  obtain ⟨answers, t, once, texts, each⟩ := run_appeared [] calls start room
  have together := Interning.run_together InternTable.call_together calls InternTable.represents_new
  rw [once] at together
  obtain ⟨table, twice, represents⟩ := together.of_ok
  refine ⟨answers, t, table, ?_⟩
  exact {
    once
    twice
    sides := represents.inverse
    indices := represents.indices
    strings := fun i => by rw [lookup?, ← represents.strings, Array.getElem?_toList]
    numbers := texts ▸ t.numbers_texts
    unchanged := fun c known => call_of_known (texts ▸ known)
    answered := each
    kept := by
      rintro before later rfl
      have grown := appeared_prefix before later
      obtain ⟨earlier, t₀, ran₀, texts₀, -⟩ :=
        run_appeared [] before start (Nat.le_trans grown.length_le room)
      refine ⟨earlier, t₀, ran₀, fun n s named => ?_⟩
      rw [← get?_eq_some_iff] at named ⊢
      exact get?_of_prefix (by rw [texts₀, texts]; exact grown) named }

end Interner

/-- A text that is asked for before it is interned, one that is interned twice, and the empty one. -/
theorem interning_is_stable_bijection_sample :
    let calls : List InternerCall := [.get "b", .intern "b", .intern "", .intern "a", .intern "b"]
    (calls.filterMap InternerCall.interned?).dedup.length < Interner.capacity ∧
      ∃ answers t, Interner.interning.run .new calls = .ok (answers, t) ∧ t.size = 3 ∧
        t.get? "b" = some ⟨1⟩ ∧ t.get? "a" = some ⟨2⟩ ∧ answers[0]? = some none ∧
        answers[4]? = some (some ⟨1⟩) := by
  intro calls
  have few : (calls.filterMap InternerCall.interned?).dedup.length < Interner.capacity := by
    decide
  have texts : InternerCall.appeared calls = ["", "b", "a"] := by decide
  obtain ⟨answers, t, table, stable⟩ := Interner.interning_is_stable_bijection calls few
  have numbers := stable.numbers
  rw [texts] at numbers
  have b : t.get? "b" = some ⟨1⟩ := (numbers.inverse "b" ⟨1⟩).2 (numbers.lookup 1)
  have a : t.get? "a" = some ⟨2⟩ := (numbers.inverse "a" ⟨2⟩).2 (numbers.lookup 2)
  refine ⟨few, answers, t, stable.once, numbers.size, b, a,
    (stable.answered [] _ _ rfl).trans ?_, (stable.answered [_, _, _, _] _ [] rfl).trans ?_⟩
  · rw [if_neg (by decide)]
  · rw [if_pos (by decide)]
    exact congrArg some b

end PatternDispatch
