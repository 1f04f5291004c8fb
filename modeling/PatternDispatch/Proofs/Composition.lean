import PatternDispatch.Proofs.PersistentMatching

/-! How the dialogue of a pattern is put together. Most of it is single questions, one after the
other, whose answers are used as they come. Three of them are followed by a look at the answer: is
there such a variable, is this a sequence, is this a mapping. A property that goes from the parts of
a dialogue to the whole, and that holds at these three places, holds of every pattern. -/
namespace PatternDispatch

namespace Persistent

open Dialogue

variable {names : Interner}

/-- What a hash pattern makes of the pairs that it gets. -/
def matchPairs (names : Interner) (p : HashPattern) (pairs : Pairs) (bs : Bound) :
    Dialogue (Option Bound) := do
  match ← matchEntries names p.entries pairs bs with
  | some bs' => matchRest p pairs bs'
  | none => return none

theorem matchHash_eq_ask (p : HashPattern) (v : Value) (bs : Bound) :
    matchHash names p v bs = ask (.mapping p v) fun answer => ofExcept answer.fold >>= fun
      | some m => matchPairs names p m.pairs bs
      | none => .done none := by
  obtain ⟨entries, rest⟩ := p
  rw [matchHash]
  refine congrArg (ask _) (funext fun answer => ?_)
  cases answer <;> rfl

theorem run_matchHash {τ : Type} {h : Answerer τ} {p : HashPattern} {v : Value} {m : Mapping}
    {s t : τ} (answer : h (.mapping p v) s = (.ok (.supported m), t)) (bs : Bound) :
    run h (matchHash names p v bs) s = run h (matchPairs names p m.pairs bs) t := by
  rw [matchHash_eq_ask]
  exact run_ask_ok answer

end Persistent

open Persistent

/-- Whether a search for a window is reported. -/
def Event.isWindow : Event → Bool
  | .windowMatched _ _ => true
  | .noWindowMatched _ _ => true
  | _ => false

namespace Dialogue

/-- The value of a variable, if there is one of the name. -/
def lookUp (names : Interner) (n : Name) : Dialogue Value := do
  match ← put (.visible n) with
  | some v => return v
  | none => .fail (.undefinedVariable (names.text n))

/-- The items of a value, if it is a sequence. -/
def openSequence (v : Value) : Dialogue (Option (List Value)) := do
  ofExcept (← put (.sequence v)).fold

/-- A property of dialogues that goes from the parts of a pattern's dialogue to the whole. -/
structure Composes (names : Interner) (P : (α : Type) → Dialogue α → Prop) : Prop where
  done {α : Type} (a : α) : P α (.done a)
  bind {α β : Type} {d : Dialogue α} {f : α → Dialogue β} (hd : P α d) (hf : ∀ a, P β (f a)) :
    P β (d >>= f)
  lookUp (n : Name) : P Value (lookUp names n)
  openSequence (v : Value) : P (Option (List Value)) (openSequence v)
  /-- Whatever pairs the pattern gets. -/
  matchHash (p : HashPattern) (v : Value) (bs : Bound)
    (inside : ∀ pairs, P (Option Bound) (matchPairs names p pairs bs)) :
    P (Option Bound) (matchHash names p v bs)
  external (r : ExternalRef) : P Value (put (.external r))
  evalWith (bs : Bound) (x : ExprId) : P Value (put (.evalWith bs x))
  caseEq (p v : Value) : P Bool (put (.caseEq p v))
  fresh : P Identity (put .fresh)
  report (event : Event) (window : event.isWindow = true) : P Unit (put (.report event))

namespace Composes

variable {names : Interner} {P : (α : Type) → Dialogue α → Prop} (h : Composes names P)

include h

/-- One part after the other, or else another dialogue. -/
theorem branch {d d' : Dialogue (Option Bound)} {k : Bound → Dialogue (Option Bound)}
    (hd : P _ d) (hk : ∀ bs, P _ (k bs)) (hd' : P _ d') :
    P (Option Bound) (d >>= fun
      | some bs => k bs
      | none => d') := by
  apply h.bind hd
  intro found
  cases found with
  | some bs => exact hk bs
  | none => exact hd'

theorem test {p v : Value} {k : Bool → Dialogue (Option Bound)} (hk : ∀ found, P _ (k found)) :
    P (Option Bound) (put (.caseEq p v) >>= k) :=
  h.bind (h.caseEq p v) hk

theorem resolve (bs : Bound) (r : ValueRef) : P Value (resolve names bs r) := by
  cases r with
  | localVar n =>
    rw [Persistent.resolve]
    cases bs.last? (.localVar n) with
    | some v => exact h.done v
    | none => exact h.lookUp n
  | external r =>
    rw [Persistent.resolve]
    cases bs.last? (.external r) with
    | some v => exact h.done v
    | none => exact h.external r
  | expr x => exact h.evalWith bs x
  | inline v => exact h.done v

theorem bindSplat (s : Splat) (items : List Value) (bs : Bound) :
    P Bound (bindSplat s items bs) := by
  cases s with
  | anonymous => exact h.done bs
  | named t => exact h.bind h.fresh fun _ => h.done _

theorem itemsFor? (shape : ListPattern) (v : Value) :
    P (Option (List Value)) (itemsFor? shape v) := by
  rw [Persistent.itemsFor?, ← bind_assoc]
  apply h.bind (h.openSequence v)
  intro items?
  cases items? with
  | none => exact h.done none
  | some items => exact h.done _

theorem windows (before after : Splat) (width : Nat)
    {attempt : List Value → Bound → Dialogue (Option Bound)}
    (hm : ∀ window bs, P _ (attempt window bs)) (items : List Value) (bs : Bound)
    (remaining start : Nat) :
    P (Option Bound) (windows before after width attempt items bs remaining start) := by
  induction remaining generalizing start with
  | zero => exact h.bind (h.report _ rfl) fun _ => h.done _
  | succ remaining ih =>
    apply h.bind (h.bindSplat before _ bs)
    intro opened
    refine h.branch (hm _ opened) (fun bs' => ?_) (ih (start + 1))
    apply h.bind (h.report _ rfl)
    intro _
    exact h.bind (h.bindSplat after _ bs') fun _ => h.done _

theorem matchRest (shape : HashPattern) (pairs : Pairs) (bs : Bound) :
    P (Option Bound) (matchRest shape pairs bs) := by
  unfold Persistent.matchRest
  cases shape.rest with
  | absent => exact h.done _
  | ignored => exact h.done _
  | closed => exact h.done _
  | named t => exact h.bind h.fresh fun _ => h.done _

theorem matchAny {ps : List Pattern} {v : Value}
    (hps : ∀ p ∈ ps, ∀ bs, P _ (matchNode names p v bs)) (bs : Bound) :
    P (Option Bound) (matchAny names ps v bs) := by
  induction ps with
  | nil => exact h.done none
  | cons p ps ih =>
    simp only [Persistent.matchAny]
    have later := ih fun q hq => hps q (List.mem_cons_of_mem p hq)
    exact h.branch (hps p List.mem_cons_self bs) (fun _ => h.done _) later

theorem matchEach {ps : List Pattern} (hps : ∀ p ∈ ps, ∀ v bs, P _ (matchNode names p v bs))
    (vs : List Value) (bs : Bound) : P (Option Bound) (matchEach names ps vs bs) := by
  induction ps generalizing vs bs with
  | nil => exact h.done (some bs)
  | cons p ps ih =>
    cases vs with
    | nil => exact h.done (some bs)
    | cons v vs =>
      simp only [Persistent.matchEach]
      have later := ih (fun q hq => hps q (List.mem_cons_of_mem p hq)) vs
      exact h.branch (hps p List.mem_cons_self v bs) later (h.done none)

theorem matchEntries {entries : List (Name × Pattern)}
    (hes : ∀ entry ∈ entries, ∀ v bs, P _ (matchNode names entry.2 v bs)) (pairs : Pairs)
    (bs : Bound) : P (Option Bound) (matchEntries names entries pairs bs) := by
  induction entries generalizing bs with
  | nil => exact h.done (some bs)
  | cons entry entries ih =>
    obtain ⟨n, p⟩ := entry
    simp only [Persistent.matchEntries]
    cases pairs.getSymbol? n with
    | none => exact h.done none
    | some v =>
      have later := ih fun other ho => hes other (List.mem_cons_of_mem _ ho)
      exact h.branch (hes (n, p) List.mem_cons_self v bs) later (h.done none)

theorem matchPairs {p : HashPattern}
    (hes : ∀ entry ∈ p.entries, ∀ v bs, P _ (matchNode names entry.2 v bs)) (pairs : Pairs)
    (bs : Bound) : P (Option Bound) (matchPairs names p pairs bs) :=
  h.branch (h.matchEntries hes pairs bs) (h.matchRest p pairs) (h.done none)

theorem matchList (shape : ListPattern)
    (hl : ∀ p ∈ shape.leading, ∀ v bs, P _ (matchNode names p v bs))
    (hw : ∀ w ∈ shape.find, ∀ p ∈ w.elements, ∀ v bs, P _ (matchNode names p v bs))
    (ht : ∀ p ∈ shape.trailing, ∀ v bs, P _ (matchNode names p v bs)) (v : Value) (bs : Bound) :
    P (Option Bound) (matchList names shape v bs) := by
  obtain ⟨leading, find, rest, trailing, openEnd⟩ := shape
  dsimp only at hl hw ht
  rcases find with _ | ⟨before, elements, after⟩
  · cases rest with
    | none =>
      simp only [Persistent.matchList]
      apply h.bind (h.itemsFor? _ v)
      intro items?
      cases items? with
      | none => exact h.done none
      | some items =>
        dsimp only
        split
        · exact h.matchEach hl _ bs
        · exact h.done none
    | some rest =>
      simp only [Persistent.matchList]
      apply h.bind (h.itemsFor? _ v)
      intro items?
      cases items? with
      | none => exact h.done none
      | some items =>
        refine h.branch (h.matchEach hl _ bs) (fun bs' => ?_) (h.done none)
        exact h.bind (h.bindSplat rest _ bs') fun bs'' => h.matchEach ht _ bs''
  · simp only [Persistent.matchList]
    apply h.bind (h.itemsFor? _ v)
    intro items?
    cases items? with
    | none => exact h.done none
    | some items =>
      exact h.windows before after elements.length
        (fun window bs => h.matchEach (hw _ rfl) window bs) items bs _ 0

theorem matchNode (p : Pattern) : ∀ v bs, P (Option Bound) (matchNode names p v bs) := by
  induction p using Pattern.induction with
  | literal l => exact fun v bs => h.test fun _ => h.done _
  | binding t => exact fun v bs => h.done _
  | wildcard => exact fun v bs => h.done _
  | discard n => exact fun v bs => h.done _
  | pin r =>
    intro v bs
    exact h.bind (h.resolve bs r) fun operand => h.test fun _ => h.done _
  | either branches ih =>
    intro v bs
    exact h.matchAny (fun p hp => ih p hp v) bs
  | capture inner t ih =>
    intro v bs
    exact h.branch (ih v bs) (fun _ => h.done _) (h.done none)
  | constant r inner ih =>
    intro v bs
    refine h.bind (h.resolve bs r) fun operand => h.test fun found => ?_
    cases found with
    | false => exact h.done none
    | true =>
      cases inner with
      | none => exact h.done (some bs)
      | some p => exact ih p rfl v bs
  | list shape hl hw ht => exact h.matchList shape hl hw ht
  | hash shape ih =>
    intro v bs
    exact h.matchHash shape v bs fun pairs => h.matchPairs ih pairs bs

end Composes

end Dialogue

end PatternDispatch
