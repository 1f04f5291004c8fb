import Mathlib.Data.List.Forall2
import PatternDispatch.Proofs.Composition
import PatternDispatch.Proofs.SharedBindings

/-! Alternatives inside alternatives. A branch that fails leaves nothing behind that a later branch,
or anything around the alternatives, could see. So it does not matter whether branches stand in one
list or in a list within the list, nor whether a pattern is the only branch or stands by itself; and
this is so wherever the pattern stands in a larger one. -/
namespace PatternDispatch

open Dialogue

/-- A pattern with a hole in place of one of its parts. The part of a list pattern in which the hole
is replaces the part of that name in `shape`. -/
inductive PatternContext where
  | hole
  | branch (before : List Pattern) (inside : PatternContext) (after : List Pattern)
  | capture (inside : PatternContext) (t : BindTarget)
  | constant (r : ValueRef) (inside : PatternContext)
  | leading (shape : ListPattern) (before : List Pattern) (inside : PatternContext)
    (after : List Pattern)
  | element (shape : ListPattern) (opening : Splat) (before : List Pattern)
    (inside : PatternContext) (after : List Pattern) (closing : Splat)
  | trailing (shape : ListPattern) (before : List Pattern) (inside : PatternContext)
    (after : List Pattern)
  | entry (before : List (Name × Pattern)) (n : Name) (inside : PatternContext)
    (after : List (Name × Pattern)) (rest : HashRest)

/-- The pattern with another one in its hole. -/
def PatternContext.fill (p : Pattern) : PatternContext → Pattern
  | hole => p
  | branch before inside after => .either (before ++ inside.fill p :: after)
  | capture inside t => .capture (inside.fill p) t
  | constant r inside => .constant r (some (inside.fill p))
  | leading shape before inside after =>
    .list { shape with leading := before ++ inside.fill p :: after }
  | element shape opening before inside after closing =>
    .list { shape with find := some ⟨opening, before ++ inside.fill p :: after, closing⟩ }
  | trailing shape before inside after =>
    .list { shape with trailing := before ++ inside.fill p :: after }
  | entry before n inside after rest => .hash ⟨before ++ (n, inside.fill p) :: after, rest⟩

namespace Dialogue

variable {α β τ : Type} {h : Answerer τ}

theorem run_bind_congr {d d' : Dialogue α} {f f' : α → Dialogue β} (hd : run h d = run h d')
    (hf : ∀ a, run h (f a) = run h (f' a)) : run h (d >>= f) = run h (d' >>= f') := by
  rw [run_bind, run_bind, hd]
  exact congrArg (_ >>= ·) (funext hf)

/-- One part after the other, or else another dialogue. -/
theorem run_branch_congr {d d' e e' : Dialogue (Option Bound)}
    {k k' : Bound → Dialogue (Option Bound)} (hd : run h d = run h d')
    (hk : ∀ bs, run h (k bs) = run h (k' bs)) (he : run h e = run h e') :
    run h (d >>= fun
      | some bs => k bs
      | none => e) =
    run h (d' >>= fun
      | some bs => k' bs
      | none => e') := by
  refine run_bind_congr hd fun found => ?_
  cases found with
  | some bs => exact hk bs
  | none => exact he

end Dialogue

namespace Persistent

variable {names : Interner}

/-- Branches are tried one list after the other. -/
theorem matchAny_append (ps qs : List Pattern) (v : Value) (bs : Bound) :
    matchAny names (ps ++ qs) v bs = matchAny names ps v bs >>= fun
      | some bs' => pure (some bs')
      | none => matchAny names qs v bs := by
  induction ps with
  | nil => rfl
  | cons p ps ih =>
    rw [List.cons_append, matchAny, matchAny, bind_assoc]
    refine congrArg (_ >>= ·) (funext fun found => ?_)
    cases found with
    | some bs' => rfl
    | none => exact ih

/-- Branches that are alternatives themselves may stand in the list. -/
theorem matchAny_either (before inner after : List Pattern) (v : Value) (bs : Bound) :
    matchAny names (before ++ .either inner :: after) v bs =
      matchAny names (before ++ inner ++ after) v bs := by
  rw [List.append_assoc, matchAny_append, matchAny_append before, matchAny_append inner]
  rfl

/-- A pattern that is the only branch. -/
theorem matchAny_singleton (p : Pattern) (v : Value) (bs : Bound) :
    matchAny names [p] v bs = matchNode names p v bs := by
  rw [matchAny]
  refine Eq.trans (congrArg (_ >>= ·) (funext fun found => ?_)) (bind_pure _)
  cases found <;> rfl

/-- Of a list pattern, only the number of items it needs is looked at before the items are there. -/
theorem itemsFor?_congr {p p' : ListPattern} (same : p.minLen = p'.minLen) (v : Value) :
    itemsFor? p v = itemsFor? p' v := by
  rw [itemsFor?, itemsFor?, same]

end Persistent

namespace Engine

section

variable {σ : Type} (e : Engine σ)

/-- Two patterns do the same with every value and from all bindings. -/
def Interchangeable (p q : Pattern) : Prop :=
  ∀ v bs, run e.cached (Persistent.matchNode e.names p v bs) =
    run e.cached (Persistent.matchNode e.names q v bs)

/-- Two windows differ in elements that are interchangeable. -/
def WindowsAlike (w w' : FindWindow) : Prop :=
  w.before = w'.before ∧ List.Forall₂ e.Interchangeable w.elements w'.elements ∧ w.after = w'.after

end

variable {σ : Type} {e : Engine σ} {p q : Pattern} {ps qs : List Pattern}

namespace Interchangeable

theorem refl (p : Pattern) : e.Interchangeable p p := fun _ _ => rfl

theorem refl_all (ps : List Pattern) : List.Forall₂ e.Interchangeable ps ps :=
  List.forall₂_same.2 fun p _ => .refl p

theorem refl_window (find : Option FindWindow) : Option.Rel e.WindowsAlike find find := by
  cases find with
  | none => exact .none
  | some w => exact .some ⟨rfl, refl_all _, rfl⟩

theorem refl_entries (entries : List (Name × Pattern)) :
    List.Forall₂ (fun f f' => f.1 = f'.1 ∧ e.Interchangeable f.2 f'.2) entries entries :=
  List.forall₂_same.2 fun f _ => ⟨rfl, refl f.2⟩

/-- One pattern among others. -/
theorem among (h : e.Interchangeable p q) (before after : List Pattern) :
    List.Forall₂ e.Interchangeable (before ++ p :: after) (before ++ q :: after) :=
  List.rel_append (refl_all before) (.cons h (refl_all after))

theorem matchAny (h : List.Forall₂ e.Interchangeable ps qs) (v : Value) (bs : Bound) :
    run e.cached (Persistent.matchAny e.names ps v bs) =
      run e.cached (Persistent.matchAny e.names qs v bs) := by
  induction h with
  | nil => rfl
  | cons first rest ih => exact run_branch_congr (first v bs) (fun _ => rfl) ih

theorem matchEach (h : List.Forall₂ e.Interchangeable ps qs) (vs : List Value) (bs : Bound) :
    run e.cached (Persistent.matchEach e.names ps vs bs) =
      run e.cached (Persistent.matchEach e.names qs vs bs) := by
  induction h generalizing vs bs with
  | nil => rfl
  | cons first rest ih =>
    cases vs with
    | nil => rfl
    | cons v vs => exact run_branch_congr (first v bs) (fun bs' => ih vs bs') rfl

theorem windows (h : List.Forall₂ e.Interchangeable ps qs) (before after : Splat) (width : Nat)
    (items : List Value) (bs : Bound) (remaining start : Nat) :
    run e.cached (Persistent.windows before after width
        (fun window => Persistent.matchEach e.names ps window) items bs remaining start) =
      run e.cached (Persistent.windows before after width
        (fun window => Persistent.matchEach e.names qs window) items bs remaining start) := by
  induction remaining generalizing start with
  | zero => rfl
  | succ remaining ih =>
    refine run_bind_congr rfl fun opened => ?_
    exact run_branch_congr (matchEach h _ opened) (fun _ => rfl) (ih (start + 1))

/-- List patterns with interchangeable parts. They are equally long, so they need as many items. -/
theorem list {find find' : Option FindWindow} {leading leading' trailing trailing' : List Pattern}
    (hl : List.Forall₂ e.Interchangeable leading leading')
    (hw : Option.Rel e.WindowsAlike find find')
    (ht : List.Forall₂ e.Interchangeable trailing trailing') (rest : Option Splat)
    (openEnd : Bool) :
    e.Interchangeable (.list ⟨leading, find, rest, trailing, openEnd⟩)
      (.list ⟨leading', find', rest, trailing', openEnd⟩) := by
  intro v bs
  have first := hl.length_eq
  have last := ht.length_eq
  simp only [Persistent.matchNode]
  cases hw with
  | none =>
    have items : Persistent.itemsFor? ⟨leading, none, rest, trailing, openEnd⟩ v =
        Persistent.itemsFor? ⟨leading', none, rest, trailing', openEnd⟩ v := by
      apply Persistent.itemsFor?_congr
      simp only [ListPattern.minLen, first, last]
    cases rest with
    | none =>
      simp only [Persistent.matchList, items, first]
      refine run_bind_congr rfl fun items? => ?_
      cases items? with
      | none => rfl
      | some items =>
        dsimp only
        split
        · exact matchEach hl _ bs
        · rfl
    | some rest =>
      simp only [Persistent.matchList, items, first, last]
      refine run_bind_congr rfl fun items? => ?_
      cases items? with
      | none => rfl
      | some items =>
        refine run_branch_congr (matchEach hl _ bs) (fun bs' => ?_) rfl
        exact run_bind_congr rfl fun bs'' => matchEach ht _ bs''
  | @some w w' alike =>
    obtain ⟨before, elements, after⟩ := w
    obtain ⟨before', elements', after'⟩ := w'
    obtain ⟨rfl, inside, rfl⟩ := alike
    have width : elements.length = elements'.length := inside.length_eq
    have items : Persistent.itemsFor? ⟨leading, some ⟨before, elements, after⟩, rest, trailing,
          openEnd⟩ v =
        Persistent.itemsFor? ⟨leading', some ⟨before, elements', after⟩, rest, trailing',
          openEnd⟩ v := by
      apply Persistent.itemsFor?_congr
      exact width
    simp only [Persistent.matchList, items, width]
    refine run_bind_congr rfl fun items? => ?_
    cases items? with
    | none => rfl
    | some items => exact windows inside before after elements'.length items bs _ 0

/-- Entries with interchangeable patterns under the same keys. -/
theorem matchEntries {entries entries' : List (Name × Pattern)}
    (h : List.Forall₂ (fun f f' => f.1 = f'.1 ∧ e.Interchangeable f.2 f'.2) entries entries')
    (pairs : Pairs) (bs : Bound) :
    run e.cached (Persistent.matchEntries e.names entries pairs bs) =
      run e.cached (Persistent.matchEntries e.names entries' pairs bs) := by
  induction h generalizing bs with
  | nil => rfl
  | @cons f f' _ _ first rest ih =>
    obtain ⟨n, p⟩ := f
    obtain ⟨n', p'⟩ := f'
    obtain ⟨rfl, same⟩ := first
    simp only [Persistent.matchEntries]
    cases pairs.getSymbol? n with
    | none => rfl
    | some v => exact run_branch_congr (same v bs) (fun bs' => ih bs') rfl

/-- A hash pattern is asked about through its keys and its rest. -/
theorem cached_mapping (p p' : HashPattern) (keys : p.keys = p'.keys) (rest : p.rest = p'.rest)
    (v : Value) : e.cached (.mapping p v) = e.cached (.mapping p' v) := by
  have requested : p.requestedKeys = p'.requestedKeys := by
    simp only [HashPattern.requestedKeys, keys, rest]
  have checked : e.checkKeys p v = e.checkKeys p' v := by
    funext answer
    simp only [checkKeys, misspelledKey?, keys]
  simp only [cached, mapping, requested, checked]

theorem hash {entries entries' : List (Name × Pattern)}
    (h : List.Forall₂ (fun f f' => f.1 = f'.1 ∧ e.Interchangeable f.2 f'.2) entries entries')
    (rest : HashRest) : e.Interchangeable (.hash ⟨entries, rest⟩) (.hash ⟨entries', rest⟩) := by
  intro v bs
  have keys : entries.map Prod.fst = entries'.map Prod.fst := by
    rw [← List.forall₂_eq_eq_eq, List.forall₂_map_left_iff, List.forall₂_map_right_iff]
    exact h.imp fun _ _ => And.left
  have asked := cached_mapping (e := e) ⟨entries, rest⟩ ⟨entries', rest⟩ keys rfl v
  have pairs (m : Mapping) :
      run e.cached (Persistent.matchPairs e.names ⟨entries, rest⟩ m.pairs bs) =
        run e.cached (Persistent.matchPairs e.names ⟨entries', rest⟩ m.pairs bs) := by
    refine run_branch_congr (matchEntries h m.pairs bs) (fun bs' => ?_) rfl
    have size : entries.length = entries'.length := h.length_eq
    simp only [Persistent.matchRest, HashPattern.keys, keys, size]
  simp only [Persistent.matchNode, Persistent.matchHash_eq_ask]
  rw [run_ask, run_ask]
  refine (congrArg (· >>= _) asked).trans (congrArg (_ >>= ·) (funext fun answer => ?_))
  cases answer with
  | supported m => exact pairs m
  | unsupported => rfl
  | wrongShape error => rfl

/-- What is interchangeable is so in every place. -/
theorem fill (h : e.Interchangeable p q) (C : PatternContext) :
    e.Interchangeable (C.fill p) (C.fill q) := by
  induction C with
  | hole => exact h
  | branch before inside after ih => exact fun v bs => matchAny (ih.among before after) v bs
  | capture inside t ih =>
    intro v bs
    exact run_branch_congr (ih v bs) (fun _ => rfl) rfl
  | constant r inside ih =>
    intro v bs
    refine run_bind_congr rfl fun operand => run_bind_congr rfl fun found => ?_
    cases found with
    | true => exact ih v bs
    | false => rfl
  | leading shape before inside after ih =>
    exact list (ih.among before after) (refl_window _) (refl_all _) shape.rest shape.openEnd
  | element shape opening before inside after closing ih =>
    have window : Option.Rel e.WindowsAlike
        (some ⟨opening, before ++ inside.fill p :: after, closing⟩)
        (some ⟨opening, before ++ inside.fill q :: after, closing⟩) :=
      .some ⟨rfl, ih.among before after, rfl⟩
    exact list (refl_all _) window (refl_all _) shape.rest shape.openEnd
  | trailing shape before inside after ih =>
    exact list (refl_all _) (refl_window _) (ih.among before after) shape.rest shape.openEnd
  | entry before n inside after rest ih =>
    have here : (n, inside.fill p).1 = (n, inside.fill q).1 ∧
        e.Interchangeable (n, inside.fill p).2 (n, inside.fill q).2 := ⟨rfl, ih⟩
    exact hash (List.rel_append (refl_entries before) (.cons here (refl_entries after))) rest

end Interchangeable

/-- With any answers kept before, two patterns come to the same outcome on every value, and leave
the variables, the host and the kept answers alike. -/
def MatchAlike {σ : Type} (e : Engine σ) (p q : Pattern) : Prop :=
  ∀ v cache session, e.attempt p v cache session = e.attempt q v cache session

theorem Interchangeable.matchAlike (h : e.Interchangeable p q) : e.MatchAlike p q := by
  intro v cache session
  rw [e.attempt_eq_run p v ⟨session, cache⟩, e.attempt_eq_run q v ⟨session, cache⟩, h v []]

theorem either_in_either (before inner after : List Pattern) :
    e.Interchangeable (.either (before ++ .either inner :: after))
      (.either (before ++ inner ++ after)) := by
  intro v bs
  simp only [Persistent.matchNode, Persistent.matchAny_either]

theorem either_singleton (p : Pattern) : e.Interchangeable (.either [p]) p := by
  intro v bs
  rw [Persistent.matchNode, Persistent.matchAny_singleton]

/-- Wherever alternatives stand in a pattern, those that are one branch of others may stand among
them, and a pattern that is the only one may stand by itself: on every value the match comes to the
same outcome with the same bindings, leaves the same variables, and makes the same calls with the
same arguments. -/
theorem alternation_flattens (e : Engine σ) (C : PatternContext) :
    (∀ before inner after : List Pattern,
      let nested := C.fill (.either (before ++ .either inner :: after))
      let flat := C.fill (.either (before ++ inner ++ after))
      e.recorded.MatchAlike nested flat ∧ e.MatchAlike nested flat) ∧
    ∀ p : Pattern, e.recorded.MatchAlike (C.fill (.either [p])) (C.fill p) ∧
      e.MatchAlike (C.fill (.either [p])) (C.fill p) := by
  constructor
  · intro before inner after
    exact ⟨((either_in_either before inner after).fill C).matchAlike,
      ((either_in_either before inner after).fill C).matchAlike⟩
  · intro p
    exact ⟨((either_singleton p).fill C).matchAlike, ((either_singleton p).fill C).matchAlike⟩

end Engine

end PatternDispatch
