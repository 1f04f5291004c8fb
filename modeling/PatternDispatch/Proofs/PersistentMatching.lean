import PatternDispatch.Matching
import PatternDispatch.Proofs.Dialogue

/-! Matching with bindings that are handed down and never taken back. A pattern gets the bindings
made so far and answers with the bindings after it, if it matches; every branch and every window
starts from the bindings its pattern was given. All that is asked of the surroundings is asked in a
dialogue. -/
namespace PatternDispatch

namespace Pattern

/-- Induction on patterns. Parts that stand in a list are reached through membership. -/
@[elab_as_elim]
theorem induction {motive : Pattern → Prop}
    (literal : ∀ v, motive (.literal v)) (binding : ∀ t, motive (.binding t))
    (wildcard : motive .wildcard) (discard : ∀ n, motive (.discard n)) (pin : ∀ r, motive (.pin r))
    (either : ∀ branches, (∀ p ∈ branches, motive p) → motive (.either branches))
    (capture : ∀ inner t, motive inner → motive (.capture inner t))
    (constant : ∀ r inner, (∀ p ∈ inner, motive p) → motive (.constant r inner))
    (list : ∀ shape : ListPattern, (∀ p ∈ shape.leading, motive p) →
      (∀ w ∈ shape.find, ∀ p ∈ w.elements, motive p) → (∀ p ∈ shape.trailing, motive p) →
      motive (.list shape))
    (hash : ∀ shape : HashPattern, (∀ entry ∈ shape.entries, motive entry.2) →
      motive (.hash shape))
    (p : Pattern) : motive p :=
  @Pattern.rec motive (fun w => ∀ p ∈ w.elements, motive p)
    (fun shape => (∀ p ∈ shape.leading, motive p) ∧
      (∀ w ∈ shape.find, ∀ p ∈ w.elements, motive p) ∧ ∀ p ∈ shape.trailing, motive p)
    (fun shape => ∀ entry ∈ shape.entries, motive entry.2)
    (fun ps => ∀ p ∈ ps, motive p) (fun inner => ∀ p ∈ inner, motive p)
    (fun find => ∀ w ∈ find, ∀ p ∈ w.elements, motive p)
    (fun entries => ∀ entry ∈ entries, motive entry.2) (fun entry => motive entry.2)
    literal binding wildcard discard pin either (fun inner t => capture inner t) constant
    (fun shape h => list shape h.1 h.2.1 h.2.2) hash
    (fun _ _ _ h => h)
    (fun _ _ _ _ _ leading find trailing => ⟨leading, find, trailing⟩)
    (fun _ _ h => h)
    (by simp) (fun p ps hp hps => by simpa using ⟨hp, hps⟩)
    (by simp) (fun p hp => by simpa using hp)
    (by simp) (fun w hw => by simpa using hw)
    (by simp) (fun entry entries he hes => List.forall_mem_cons.2 ⟨he, hes⟩)
    (fun _ _ h => h) p

end Pattern

namespace Persistent

open Dialogue

variable (names : Interner)

/-- The operand of a pin or a constant. -/
def resolve (bs : Bound) : ValueRef → Dialogue Value
  | .localVar n => do
    match bs.last? (.localVar n) with
    | some v => return v
    | none =>
      match ← put (.visible n) with
      | some v => return v
      | none => .fail (.undefinedVariable (names.text n))
  | .external r =>
    match bs.last? (.external r) with
    | some v => return v
    | none => put (.external r)
  | .expr x => put (.evalWith bs x)
  | .inline v => return v

/-- The bindings after a splat. -/
def bindSplat (s : Splat) (items : List Value) (bs : Bound) : Dialogue Bound :=
  match s with
  | .anonymous => return bs
  | .named t => do
    let id ← put .fresh
    return bs ++ [(t, .array id items)]

/-- The items for a list pattern. -/
def itemsFor? (p : ListPattern) (v : Value) : Dialogue (Option (List Value)) := do
  match ← ofExcept (← put (.sequence v)).fold with
  | some items => return if items.length < p.minLen then none else some items
  | none => return none

/-- Tries windows from left to right, each from the same bindings. -/
def windows (before after : Splat) (width : Nat)
    (attempt : List Value → Bound → Dialogue (Option Bound)) (items : List Value) (bs : Bound) :
    Nat → Nat → Dialogue (Option Bound)
  | 0, _ => do
    put (.report (.noWindowMatched items.length width))
    return none
  | remaining + 1, start => do
    let opened ← bindSplat before (items.take start) bs
    match ← attempt ((items.drop start).take width) opened with
    | some bs' =>
      put (.report (.windowMatched start width))
      return some (← bindSplat after (items.drop (start + width)) bs')
    | none => windows before after width attempt items bs remaining (start + 1)

/-- What is left to do once all entries of a hash pattern have matched. -/
def matchRest (p : HashPattern) (pairs : Pairs) (bs : Bound) : Dialogue (Option Bound) :=
  match p.rest with
  | .absent => return some bs
  | .ignored => return some bs
  | .closed => return if pairs.length == p.entries.length then some bs else none
  | .named t => do
    let id ← put .fresh
    return some (bs ++ [(t, .hash id (Pairs.ofList (Engine.otherPairs p.keys pairs)))])

mutual

/-- The bindings after a pattern, if it matches. -/
def matchNode : Pattern → Value → Bound → Dialogue (Option Bound)
  | .literal l, v, bs => do
    return if ← put (.caseEq l v) then some bs else none
  | .binding t, v, bs => return some (bs ++ [(t, v)])
  | .wildcard, _, bs => return some bs
  | .discard _, _, bs => return some bs
  | .pin r, v, bs => do
    let operand ← resolve names bs r
    return if ← put (.caseEq operand v) then some bs else none
  | .either branches, v, bs => matchAny branches v bs
  | .capture inner t, v, bs => do
    match ← matchNode inner v bs with
    | some bs' => return some (bs' ++ [(t, v)])
    | none => return none
  | .constant r inner, v, bs => do
    let operand ← resolve names bs r
    if ← put (.caseEq operand v) then matchInner inner v bs else return none
  | .list p, v, bs => matchList p v bs
  | .hash p, v, bs => matchHash p v bs

def matchInner : Option Pattern → Value → Bound → Dialogue (Option Bound)
  | none, _, bs => return some bs
  | some p, v, bs => matchNode p v bs

/-- The bindings after the first branch that matches. -/
def matchAny : List Pattern → Value → Bound → Dialogue (Option Bound)
  | [], _, _ => return none
  | p :: ps, v, bs => do
    match ← matchNode p v bs with
    | some bs' => return some bs'
    | none => matchAny ps v bs

/-- Patterns and items one by one; each pattern gets the bindings after the one before. -/
def matchEach : List Pattern → List Value → Bound → Dialogue (Option Bound)
  | p :: ps, v :: vs, bs => do
    match ← matchNode p v bs with
    | some bs' => matchEach ps vs bs'
    | none => return none
  | _, _, bs => return some bs

def matchList : ListPattern → Value → Bound → Dialogue (Option Bound)
  | ⟨leading, some ⟨before, elements, after⟩, rest, trailing, openEnd⟩, v, bs => do
    let p : ListPattern := ⟨leading, some ⟨before, elements, after⟩, rest, trailing, openEnd⟩
    match ← itemsFor? p v with
    | none => return none
    | some items =>
      let width := elements.length
      windows before after width (fun window => matchEach elements window) items bs
        (items.length - width + 1) 0
  | ⟨leading, none, some rest, trailing, openEnd⟩, v, bs => do
    let p : ListPattern := ⟨leading, none, some rest, trailing, openEnd⟩
    match ← itemsFor? p v with
    | none => return none
    | some items =>
      let first := leading.length
      let last := items.length - trailing.length
      match ← matchEach leading (items.take first) bs with
      | some bs' =>
        let bs' ← bindSplat rest ((items.take last).drop first) bs'
        matchEach trailing (items.drop last) bs'
      | none => return none
  | ⟨leading, none, none, trailing, openEnd⟩, v, bs => do
    let p : ListPattern := ⟨leading, none, none, trailing, openEnd⟩
    match ← itemsFor? p v with
    | none => return none
    | some items =>
      if openEnd || items.length == leading.length then
        matchEach leading (items.take leading.length) bs
      else return none

def matchHash : HashPattern → Value → Bound → Dialogue (Option Bound)
  | ⟨entries, rest⟩, v, bs => do
    let p : HashPattern := ⟨entries, rest⟩
    match ← ofExcept (← put (.mapping p v)).fold with
    | none => return none
    | some m =>
      match ← matchEntries entries m.pairs bs with
      | some bs' => matchRest p m.pairs bs'
      | none => return none

def matchEntries : List (Name × Pattern) → Pairs → Bound → Dialogue (Option Bound)
  | [], _, bs => return some bs
  | (n, p) :: es, pairs, bs =>
    match pairs.getSymbol? n with
    | none => return none
    | some v => do
      match ← matchNode p v bs with
      | some bs' => matchEntries es pairs bs'
      | none => return none

end

end Persistent

end PatternDispatch
