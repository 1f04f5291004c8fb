import PatternDispatch.Proofs.SplatCaptures

/-! List patterns with their arithmetic checked. Matching takes differences of lengths and slices of
a sequence, and puts patterns beside items of which there must be as many. Here each of these
operations has its precondition with it and comes to nothing where that fails. With one test at the
start, that the items are as many as the pattern counts, none of them ever fails, in whatever
combination the parts of a list pattern come: the checked steps are the steps of the matcher. -/
namespace PatternDispatch

/-- A step of an attempt to match that may come to nothing, because an operation on the way is not
defined. -/
abbrev Checked (σ α : Type) := ExceptT EvalError (StateT (MatchState σ) Option) α

namespace Checked

variable {σ α β : Type}

/-- A step without operations that have to be checked. -/
def of (m : MatchM σ α) : Checked σ α := fun s => some (m s)

/-- An operation that is not defined. -/
def trap : Checked σ α := fun _ => none

/-- A precondition. -/
def require (p : Prop) [Decidable p] : Checked σ Unit := if p then pure () else trap

/-- A difference of lengths. -/
def difference (m n : Nat) : Checked σ Nat := do
  require (n ≤ m)
  return m - n

/-- The items from `start` on and before `stop`. -/
def slice (items : List Value) (start stop : Nat) : Checked σ (List Value) := do
  require (start ≤ stop ∧ stop ≤ items.length)
  return (items.take stop).drop start

/-- Patterns beside items, of which there are as many. -/
def beside (ps : List Pattern) (each : List Value → Checked σ Bool) (items : List Value) :
    Checked σ Bool := do
  require (ps.length = items.length)
  each items

/-- Runs an attempt, and takes back what it bound unless it succeeds. -/
def branch (attempt : Checked σ Bool) : Checked σ Bool := do
  let mark := (← of .getBindings).size
  if ← attempt then return true
  of (.modifyBindings (·.rollback mark))
  return false

theorem of_bind_apply (m : MatchM σ α) (f : α → Checked σ β) (s : MatchState σ) :
    (of m >>= f) s = ExceptT.bindCont f (m s).1 (m s).2 := rfl

/-- A step that succeeds goes on with what comes after it. -/
theorem of_bind_of_ok {m : MatchM σ α} {s s' : MatchState σ} {a : α} (h : m s = (.ok a, s'))
    (f : α → Checked σ β) : (of m >>= f) s = f a s' := by
  rw [of_bind_apply, h]
  rfl

/-- What comes after a step has to be known for its results only. -/
theorem of_bind_eq {m : MatchM σ α} {f : α → Checked σ β} {g : α → MatchM σ β}
    (h : ∀ s a s', m s = (.ok a, s') → f a = of (g a)) : of m >>= f = of (m >>= g) := by
  funext s
  change _ = some ((m >>= g) s)
  rcases result : m s with ⟨error | a, s'⟩
  · rw [of_bind_apply, HostM.bind_of_error result, result]
    rfl
  · rw [of_bind_of_ok result, HostM.bind_of_ok result, h s a s' result]
    rfl

theorem of_bind (m : MatchM σ α) (f : α → MatchM σ β) :
    of (m >>= f) = of m >>= fun a => of (f a) :=
  (of_bind_eq fun _ _ _ _ => rfl).symm

theorem of_pure (a : α) : (of (pure a) : Checked σ α) = pure a := rfl

section

variable {m n start stop : Nat} {items : List Value}

theorem require_of {p : Prop} [Decidable p] (h : p) : (require p : Checked σ Unit) = pure () :=
  if_pos h

theorem difference_of (h : n ≤ m) : (difference m n : Checked σ Nat) = pure (m - n) := by
  rw [difference, require_of h, pure_bind]

theorem slice_of (h : start ≤ stop) (inside : stop ≤ items.length) :
    (slice items start stop : Checked σ (List Value)) = pure ((items.take stop).drop start) := by
  rw [slice, require_of ⟨h, inside⟩, pure_bind]

theorem slice_before (inside : stop ≤ items.length) :
    (slice items 0 stop : Checked σ (List Value)) = pure (items.take stop) :=
  slice_of (Nat.zero_le stop) inside

theorem slice_from (inside : start ≤ items.length) :
    (slice items start items.length : Checked σ (List Value)) = pure (items.drop start) := by
  rw [slice_of inside (Nat.le_refl _), List.take_length]

theorem slice_width (width : Nat) (inside : start + width ≤ items.length) :
    (slice items start (start + width) : Checked σ (List Value)) =
      pure ((items.drop start).take width) := by
  rw [slice_of (Nat.le_add_right start width) inside, List.drop_take, Nat.add_sub_cancel_left]

theorem beside_of {ps : List Pattern} {each : List Value → Checked σ Bool}
    (same : ps.length = items.length) : beside ps each items = each items := by
  rw [beside, require_of same, pure_bind]

end

theorem branch_of (attempt : MatchM σ Bool) : branch (of attempt) = of (MatchM.branch attempt) := by
  rw [branch, MatchM.branch]
  refine of_bind_eq fun _ bindings _ _ => of_bind_eq fun _ found _ _ => ?_
  cases found with
  | true => rfl
  | false => exact (of_bind _ _).symm

end Checked

namespace Engine

variable {σ : Type} (e : Engine σ)

open Checked

/-- Tries windows from left to right, with their bounds checked. -/
def checkedWindows (before after : Splat) (width : Nat) (attempt : List Value → Checked σ Bool)
    (items : List Value) : Nat → Nat → Checked σ Bool
  | 0, _ => do
    of (.ofEval (e.observe (.noWindowMatched items.length width)))
    return false
  | remaining + 1, start => do
    let stop := start + width
    let found ← branch do
      of (e.bindSplat before (← slice items 0 start))
      attempt (← slice items start stop)
    if found then
      of (.ofEval (e.observe (.windowMatched start width)))
      of (e.bindSplat after (← slice items stop items.length))
      return true
    checkedWindows before after width attempt items remaining (start + 1)

/-- A list pattern, with its arithmetic checked. How the leading patterns, those of the window and
the trailing ones treat the items beside them is left open. -/
def checkedListWith (p : ListPattern) (leading window trailing : List Value → Checked σ Bool)
    (v : Value) : Checked σ Bool := do
  match ← of (e.itemsFor? p v) with
  | none => return false
  | some items =>
    match p.find, p.rest with
    | some w, _ =>
      let width := w.elements.length
      let last ← difference items.length width
      e.checkedWindows w.before w.after width (beside w.elements window) items (last + 1) 0
    | none, some rest =>
      let first := p.leading.length
      let last ← difference items.length p.trailing.length
      if ← beside p.leading leading (← slice items 0 first) then
        of (e.bindSplat rest (← slice items first last))
        beside p.trailing trailing (← slice items last items.length)
      else return false
    | none, none =>
      if p.openEnd then
        beside p.leading leading (← slice items 0 p.leading.length)
      else if items.length = p.leading.length then
        beside p.leading leading items
      else return false

mutual

/-- Whether a value matches, with the arithmetic of all list patterns checked. -/
def checkedNode : Pattern → Value → Checked σ Bool
  | .either branches, v => checkedAny branches v
  | .capture inner t, v => do
    if ← checkedNode inner v then
      of (MatchM.bind t v)
      return true
    return false
  | .constant r inner, v => do
    let operand ← of (e.resolve r)
    if ← of (e.caseEq operand v) then checkedInner inner v
    else return false
  | .list p, v => checkedList p v
  | .hash p, v => checkedHash p v
  | p, v => of (e.matchNode p v)

def checkedInner : Option Pattern → Value → Checked σ Bool
  | none, _ => return true
  | some p, v => checkedNode p v

def checkedAny : List Pattern → Value → Checked σ Bool
  | [], _ => return false
  | p :: ps, v => do
    if ← branch (checkedNode p v) then return true
    checkedAny ps v

def checkedEach : List Pattern → List Value → Checked σ Bool
  | p :: ps, v :: vs => do
    if ← checkedNode p v then checkedEach ps vs
    else return false
  | _, _ => return true

def checkedList : ListPattern → Value → Checked σ Bool
  | ⟨leading, some ⟨before, elements, after⟩, rest, trailing, openEnd⟩, v =>
    e.checkedListWith ⟨leading, some ⟨before, elements, after⟩, rest, trailing, openEnd⟩
      (fun vs => checkedEach leading vs) (fun vs => checkedEach elements vs)
      (fun vs => checkedEach trailing vs) v
  | ⟨leading, none, rest, trailing, openEnd⟩, v =>
    e.checkedListWith ⟨leading, none, rest, trailing, openEnd⟩
      (fun vs => checkedEach leading vs) (fun _ => trap) (fun vs => checkedEach trailing vs) v

def checkedHash : HashPattern → Value → Checked σ Bool
  | ⟨entries, rest⟩, v => do
    let p : HashPattern := ⟨entries, rest⟩
    match ← of (do (← e.mapping p v).fold) with
    | none => return false
    | some m =>
      if ← checkedEntries entries m.pairs then of (e.matchRest p m.pairs)
      else return false

def checkedEntries : List (Name × Pattern) → Pairs → Checked σ Bool
  | [], _ => return true
  | (n, p) :: es, pairs => do
    match pairs.getSymbol? n with
    | none => return false
    | some v =>
      if ← checkedNode p v then checkedEntries es pairs
      else return false

end

variable {e}

/-- A test and what it guards. -/
theorem of_both {test : MatchM σ Bool} {next : Checked σ Bool} {next' : MatchM σ Bool}
    (same : next = of next') :
    (of test >>= fun found => if found = true then next else pure false) =
      of (test >>= fun found => if found = true then next' else pure false) := by
  refine of_bind_eq fun _ found _ _ => ?_
  cases found with
  | true => exact same
  | false => rfl

/-- Windows stay within the items as long as the starts that are left do. -/
theorem checkedWindows_eq {before after : Splat} {width : Nat} {attempt : List Value → Checked σ Bool}
    {attempt' : List Value → MatchM σ Bool} {items : List Value}
    (same : ∀ vs, width = vs.length → attempt vs = of (attempt' vs)) (remaining start : Nat)
    (room : start + remaining + width ≤ items.length + 1) :
    e.checkedWindows before after width attempt items remaining start =
      of (e.tryWindows before after width attempt' items remaining start) := by
  induction remaining generalizing start with
  | zero => exact (of_bind _ _).symm
  | succ remaining ih =>
    have inside : start + width ≤ items.length := by omega
    have size : width = ((items.drop start).take width).length := by
      rw [List.length_take, List.length_drop]
      omega
    rw [checkedWindows, tryWindows]
    simp only [slice_before (Nat.le_of_add_right_le inside), slice_width width inside,
      slice_from inside, pure_bind, same _ size, ih (start + 1) (by omega), ← of_bind, branch_of]
    refine of_bind_eq fun _ found _ _ => ?_
    cases found with
    | true => simp only [if_true, of_bind, of_pure]
    | false => rfl

/-- Items that a list pattern goes on with are as many as it counts. -/
theorem itemsFor?_enough {p : ListPattern} {v : Value} {items : List Value} {s s' : MatchState σ}
    (opened : e.itemsFor? p v s = (.ok (some items), s')) : p.minLen ≤ items.length := by
  rcases asked : e.sequence v s with ⟨error | answer, t⟩
  · cases (HostM.bind_of_error asked _).symm.trans opened
  · cases answer with
    | supported found =>
      rw [itemsFor?_of_sequence asked] at opened
      split at opened
      · cases opened
      · cases opened
        omega
    | unsupported => cases (HostM.bind_of_ok asked _).symm.trans opened
    | wrongShape error => cases (HostM.bind_of_ok asked _).symm.trans opened

section

variable {ps : List Pattern} {each : List Value → Checked σ Bool} {items : List Value}
  (same : ∀ vs, each vs = of (e.matchEach ps vs)) (enough : ps.length ≤ items.length)

include same enough

/-- As many patterns as there are items taken from the front. -/
theorem beside_take :
    beside ps each (items.take ps.length) = of (e.matchEach ps (items.take ps.length)) := by
  rw [beside_of (by rw [List.length_take, Nat.min_eq_left enough]), same]

/-- As many patterns as there are items left at the end. -/
theorem beside_drop : beside ps each (items.drop (items.length - ps.length)) =
    of (e.matchEach ps (items.drop (items.length - ps.length))) := by
  rw [beside_of (by rw [List.length_drop, Nat.sub_sub_self enough]), same]

end

/-- One list pattern: where the patterns beside as many items are the matcher's, so is the whole. -/
theorem checkedListWith_eq {p : ListPattern} {leading window trailing : List Value → Checked σ Bool}
    (hl : ∀ vs, leading vs = of (e.matchEach p.leading vs))
    (hw : ∀ w ∈ p.find, ∀ vs, window vs = of (e.matchEach w.elements vs))
    (ht : ∀ vs, trailing vs = of (e.matchEach p.trailing vs)) (v : Value) :
    e.checkedListWith p leading window trailing v = of (e.matchList p v) := by
  obtain ⟨first, _ | ⟨before, elements, after⟩, rest?, last, openEnd⟩ := p
  · cases rest? with
    | none =>
      rw [checkedListWith, matchList]
      refine of_bind_eq fun s items? s' opened => ?_
      cases items? with
      | none => rfl
      | some items =>
        have enough : first.length ≤ items.length := Nat.le_of_add_right_le (itemsFor?_enough opened)
        cases openEnd with
        | true =>
          simp only [slice_before enough, pure_bind, beside_take hl enough]
          rfl
        | false =>
          by_cases size : items.length = first.length
          · have whole : items.take first.length = items := List.take_of_length_le (by omega)
            simp only [Bool.false_eq_true, if_false, if_pos size, beside_of size.symm, hl,
              Bool.false_or, beq_iff_eq, whole]
          · simp only [Bool.false_eq_true, if_false, if_neg size, Bool.false_or, beq_iff_eq]
            rfl
    | some rest =>
      rw [checkedListWith, matchList]
      refine of_bind_eq fun s items? s' opened => ?_
      cases items? with
      | none => rfl
      | some items =>
        have enough : first.length + last.length ≤ items.length := itemsFor?_enough opened
        have front : first.length ≤ items.length := Nat.le_of_add_right_le enough
        have back : last.length ≤ items.length := Nat.le_of_add_left_le enough
        have apart : first.length ≤ items.length - last.length := Nat.le_sub_of_add_le enough
        simp only [difference_of back, pure_bind, slice_before front, beside_take hl front,
          slice_of apart (Nat.sub_le _ _), slice_from (Nat.sub_le _ _), beside_drop ht back,
          ← of_bind]
        exact of_both rfl
  · rw [checkedListWith, matchList]
    refine of_bind_eq fun s items? s' opened => ?_
    cases items? with
    | none => rfl
    | some items =>
      have enough : elements.length ≤ items.length := itemsFor?_enough opened
      simp only [difference_of enough, pure_bind]
      refine checkedWindows_eq (fun vs size => ?_) _ _ (by omega)
      rw [beside_of size, hw _ rfl]

theorem checkedAny_eq {ps : List Pattern}
    (each : ∀ p ∈ ps, ∀ v, e.checkedNode p v = of (e.matchNode p v)) (v : Value) :
    e.checkedAny ps v = of (e.matchAny ps v) := by
  induction ps with
  | nil => rfl
  | cons p ps ih =>
    rw [checkedAny, matchAny, each p List.mem_cons_self, branch_of,
      ih fun q hq => each q (List.mem_cons_of_mem p hq)]
    refine of_bind_eq fun _ found _ _ => ?_
    cases found <;> rfl

theorem checkedEach_eq {ps : List Pattern}
    (each : ∀ p ∈ ps, ∀ v, e.checkedNode p v = of (e.matchNode p v)) (vs : List Value) :
    e.checkedEach ps vs = of (e.matchEach ps vs) := by
  induction ps generalizing vs with
  | nil => rfl
  | cons p ps ih =>
    cases vs with
    | nil => rfl
    | cons v vs =>
      rw [checkedEach, matchEach, each p List.mem_cons_self]
      exact of_both (ih (fun q hq => each q (List.mem_cons_of_mem p hq)) vs)

theorem checkedEntries_eq {entries : List (Name × Pattern)}
    (each : ∀ entry ∈ entries, ∀ v, e.checkedNode entry.2 v = of (e.matchNode entry.2 v))
    (pairs : Pairs) : e.checkedEntries entries pairs = of (e.matchEntries entries pairs) := by
  induction entries with
  | nil => rfl
  | cons entry entries ih =>
    obtain ⟨n, p⟩ := entry
    rw [checkedEntries, matchEntries]
    cases pairs.getSymbol? n with
    | none => rfl
    | some v =>
      simp only [each (n, p) List.mem_cons_self]
      exact of_both (ih fun other ho => each other (List.mem_cons_of_mem _ ho))

/-- No step of the matcher, however deep in a pattern, takes a difference or a slice that is not
there or puts patterns beside more or fewer items. The induction is on the pattern. -/
theorem checkedNode_eq (p : Pattern) (v : Value) : e.checkedNode p v = of (e.matchNode p v) := by
  induction p using Pattern.induction generalizing v with
  | literal l => rfl
  | binding t => rfl
  | wildcard => rfl
  | discard n => rfl
  | pin r => rfl
  | either branches ih =>
    rw [checkedNode, matchNode]
    exact checkedAny_eq ih v
  | capture inner t ih =>
    rw [checkedNode, matchNode, ih]
    exact of_both (of_bind _ _).symm
  | constant r inner ih =>
    have innerSame : e.checkedInner inner v = of (e.matchInner inner v) := by
      cases inner with
      | none => rfl
      | some p => exact ih p rfl v
    rw [checkedNode, matchNode]
    exact of_bind_eq fun _ operand _ _ => of_both innerSame
  | list shape hl hw ht =>
    rw [checkedNode, matchNode]
    obtain ⟨leading, _ | ⟨before, elements, after⟩, rest, trailing, openEnd⟩ := shape
    · refine checkedListWith_eq (checkedEach_eq hl) ?_ (checkedEach_eq ht) v
      rintro _ ⟨⟩
    · refine checkedListWith_eq (checkedEach_eq hl) ?_ (checkedEach_eq ht) v
      rintro _ ⟨⟩
      exact checkedEach_eq (hw _ rfl)
  | hash shape ih =>
    obtain ⟨entries, rest⟩ := shape
    rw [checkedNode, matchNode, checkedHash, matchHash, ← bind_assoc]
    refine of_bind_eq fun _ found _ _ => ?_
    cases found with
    | none => rfl
    | some m =>
      simp only [checkedEntries_eq ih]
      exact of_both rfl

end Engine

end PatternDispatch
