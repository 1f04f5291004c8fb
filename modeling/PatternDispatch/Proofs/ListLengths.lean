import PatternDispatch.Proofs.CheckedMatching
import PatternDispatch.Proofs.ListForms
import PatternDispatch.Proofs.Parts

/-! How many items a list pattern takes. A sequence that has fewer than the pattern counts is refused
before any pattern is put beside an item. What is counted is not too little either: where nothing is
asked of the items, the length alone decides. -/
namespace PatternDispatch

/-- Matches anything and binds nothing. -/
def Pattern.IsWildcard (p : Pattern) : Prop := p = .wildcard ∨ ∃ name, p = .discard name

/-- Nothing is asked of any item. -/
structure ListPattern.OnlyWildcards (shape : ListPattern) : Prop where
  leading : ∀ p ∈ shape.leading, p.IsWildcard
  window : ∀ w ∈ shape.find, ∀ p ∈ w.elements, p.IsWildcard
  trailing : ∀ p ∈ shape.trailing, p.IsWildcard

namespace Engine

variable {σ : Type} {e : Engine σ} {v : Value} {items : List Value} {s s₁ : MatchState σ}

theorem matchEach_of_wildcards {ps : List Pattern} (all : ∀ p ∈ ps, p.IsWildcard)
    (vs : List Value) (s : MatchState σ) : e.matchEach ps vs s = (.ok true, s) := by
  induction ps generalizing vs with
  | nil => rfl
  | cons p ps ih =>
    cases vs with
    | nil => rfl
    | cons v vs =>
      have later := ih (fun q hq => all q (List.mem_cons_of_mem p hq)) vs
      rcases all p List.mem_cons_self with rfl | ⟨name, rfl⟩
      · exact later
      · exact later

/-- An attempt that succeeds keeps what it bound. -/
theorem branch_of_true {attempt : MatchM σ Bool} {s' : MatchState σ}
    (succeeds : attempt s = (.ok true, s')) : MatchM.branch attempt s = (.ok true, s') := by
  have mark : MatchM.getBindings s = (.ok s.bindings, s) := rfl
  rw [MatchM.branch, HostM.bind_of_ok mark, HostM.bind_of_ok succeeds]
  rfl

section

variable {leading trailing elements : List Pattern} {before rest after : Splat}
  (asked : e.sequence v s = (.ok (.supported items), s₁))

include asked

theorem exact_of_wildcards (all : ∀ p ∈ leading, p.IsWildcard) :
    (e.matchNode (.list (.exact leading)) v s).1 = .ok (decide (items.length = leading.length)) := by
  by_cases short : items.length < (ListPattern.exact leading).minLen
  · have other : items.length ≠ leading.length := Nat.ne_of_lt short
    rw [matchNode_list_short asked short, decide_eq_false other]
  · have opened := itemsFor?_of_enough asked (Nat.not_lt.1 short)
    rw [matchNode, ListPattern.exact, matchList]
    refine (congrArg Prod.fst (HostM.bind_of_ok opened _)).trans ?_
    by_cases size : items.length = leading.length
    · simp only [Bool.false_or, size, beq_self_eq_true, if_true, matchEach_of_wildcards all,
        decide_true]
    · simp only [Bool.false_or, beq_iff_eq, if_neg size, decide_eq_false size]
      rfl

theorem withRest_of_wildcards (all : ∀ p ∈ leading, p.IsWildcard)
    (all' : ∀ p ∈ trailing, p.IsWildcard)
    (enough : leading.length + trailing.length ≤ items.length) :
    (e.matchNode (.list (.withRest leading rest trailing)) v s).1 = .ok true := by
  rw [ListPattern.withRest, matchNode_rest asked enough,
    HostM.bind_of_ok (matchEach_of_wildcards all items s₁), if_pos rfl,
    HostM.bind_of_ok (bindSplat_apply rest _ s₁), matchEach_of_wildcards all']

/-- The window at the very start is found. -/
theorem window_of_wildcards (all : ∀ p ∈ elements, p.IsWildcard)
    (enough : elements.length ≤ items.length) :
    (e.matchNode (.list (.window before elements after)) v s).1 = .ok true := by
  let shape : ListPattern := .window before elements after
  have opened : e.itemsFor? shape v s = (.ok (some items), s₁) := itemsFor?_of_enough asked enough
  have first : MatchM.branch (do
      e.bindSplat before (items.take 0)
      e.matchEach elements ((items.drop 0).take elements.length)) s₁ =
        (.ok true, e.afterSplat before (items.take 0) s₁) :=
    branch_of_true ((HostM.bind_of_ok (bindSplat_apply before _ s₁) _).trans
      (matchEach_of_wildcards all _ _))
  rw [matchNode, ListPattern.window, matchList]
  refine (congrArg Prod.fst (HostM.bind_of_ok opened _)).trans ?_
  refine (congrArg Prod.fst (HostM.bind_of_ok first _)).trans ?_
  obtain ⟨t, reported⟩ : ∃ t, MatchM.ofEval (e.observe (.windowMatched 0 elements.length))
      (e.afterSplat before (items.take 0) s₁) = (.ok (), t) := ⟨_, rfl⟩
  rw [if_pos rfl, HostM.bind_of_ok reported, HostM.bind_of_ok (bindSplat_apply after _ t)]
  rfl

end

/-- With nothing asked of the items, the forms that leave the length open take every sequence that is
long enough. -/
theorem open_of_wildcards {shape : ListPattern} (documented : shape.Documented)
    (notExact : ∀ leading, shape ≠ .exact leading) (all : shape.OnlyWildcards)
    (asked : e.sequence v s = (.ok (.supported items), s₁)) :
    (e.matchNode (.list shape) v s).1 = .ok (decide (shape.minLen ≤ items.length)) := by
  by_cases short : items.length < shape.minLen
  · rw [matchNode_list_short asked short, decide_eq_false (Nat.not_le.2 short)]
  · have enough := Nat.not_lt.1 short
    rw [decide_eq_true enough]
    rcases documented with ⟨leading, rfl⟩ | ⟨leading, rest, trailing, rfl⟩ |
      ⟨before, elements, after, rfl⟩ | ⟨leading, rfl⟩
    · exact absurd rfl (notExact leading)
    · exact withRest_of_wildcards asked all.leading all.trailing enough
    · exact window_of_wildcards asked (all.window _ rfl) enough
    · rw [openEnded_eq_withRest]
      exact withRest_of_wildcards asked all.leading all.trailing enough

/-- Matching with all differences, slices and numbers of items checked is matching: whatever the
pattern, the value and the answers of the host, nothing on the way is out of bounds. A sequence of
fewer items than a list pattern counts is refused as it comes, whatever the patterns in it would have
done with items. In each of the forms that programs write, if nothing is asked of the items, a
sequence matches exactly when it has as many items as are counted, or at least as many if the form
leaves the length open. -/
theorem list_matching_in_bounds (e : Engine σ) :
    (∀ p v, e.checkedNode p v = Checked.of (e.matchNode p v)) ∧
    ∀ (v : Value) (items : List Value) (s s₁ : MatchState σ),
      e.sequence v s = (.ok (.supported items), s₁) →
      (∀ shape : ListPattern, items.length < shape.minLen →
        ∀ leading window trailing : List Value → Checked σ Bool,
          e.checkedListWith shape leading window trailing v s = some (.ok false, s₁)) ∧
      (∀ leading, (ListPattern.exact leading).OnlyWildcards →
        (e.matchNode (.list (.exact leading)) v s).1 =
          .ok (decide (items.length = (ListPattern.exact leading).minLen))) ∧
      ∀ shape : ListPattern, shape.Documented → (∀ leading, shape ≠ .exact leading) →
        shape.OnlyWildcards →
          (e.matchNode (.list shape) v s).1 = .ok (decide (shape.minLen ≤ items.length)) := by
  refine ⟨checkedNode_eq, fun v items s s₁ asked => ⟨?_, ?_, ?_⟩⟩
  · intro shape short leading window trailing
    have refused : e.itemsFor? shape v s = (.ok none, s₁) := by
      rw [itemsFor?_of_sequence asked, if_pos short]
    rw [checkedListWith, Checked.of_bind_of_ok refused]
    rfl
  · exact fun leading all => exact_of_wildcards asked all.leading
  · exact fun shape documented notExact all => open_of_wildcards documented notExact all asked

end Engine

/-- Two items: too few for trailing patterns that only count, as many as the window is wide, and more
than the one pattern of an exact form. -/
theorem list_matching_in_bounds_sample :
    let e : Engine Nat := ⟨.reading .nil, .new, .standard⟩
    let array : Value := .array ⟨0⟩ [.bool true, .nil]
    let s : MatchState Nat := ⟨⟨.empty, 0⟩, .empty, .empty⟩
    let counted : ListPattern := ⟨[.wildcard], none, none, [.wildcard, .wildcard], true⟩
    (e.checkedListWith counted (fun _ => .trap) (fun _ => .trap) (fun _ => .trap) array s).map
        Prod.fst = some (.ok false) ∧
      (e.matchNode (.list (.window .anonymous [.wildcard, .wildcard] .anonymous)) array s).1 =
        .ok true ∧
      (e.matchNode (.list (.exact [.wildcard])) array s).1 = .ok false := by
  intro e array s counted
  obtain ⟨s₁, asked⟩ : ∃ s₁, e.sequence array s = (.ok (.supported [.bool true, .nil]), s₁) :=
    ⟨_, e.sequence_asked (Cache.sequence?_empty _)⟩
  obtain ⟨short, exact, long⟩ := e.list_matching_in_bounds.2 array [.bool true, .nil] s s₁ asked
  have wild : ∀ n, ∀ p ∈ List.replicate n Pattern.wildcard, p.IsWildcard := fun n p inside =>
    .inl (List.eq_of_mem_replicate inside)
  have window : (ListPattern.window .anonymous [.wildcard, .wildcard] .anonymous).OnlyWildcards := by
    refine ⟨wild 0, ?_, wild 0⟩
    rintro _ ⟨⟩
    exact wild 2
  have one : (ListPattern.exact [.wildcard]).OnlyWildcards := by
    refine ⟨wild 1, ?_, wild 0⟩
    rintro _ ⟨⟩
  refine ⟨?_, ?_, exact _ one⟩
  · rw [short counted (by decide)]
    rfl
  · refine long _ (.inr (.inr (.inl ⟨_, _, _, rfl⟩))) (fun leading same => ?_) window
    cases same

end PatternDispatch
