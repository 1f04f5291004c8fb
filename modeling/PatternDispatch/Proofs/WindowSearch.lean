import PatternDispatch.Proofs.DeclarativeReading
import PatternDispatch.Proofs.SplatCaptures

/-! The search for a window. Starts are tried from left to right until one matches or ends in an
error. What a start that does not match has bound is taken back, so every start begins with the
bindings on entry; where tests, operands and hooks change nothing, it also begins with the same
variables, and with the same host but for identities that have been handed out. -/
namespace PatternDispatch

open Dialogue

namespace FindWindow

def width (w : FindWindow) : Nat := w.elements.length

/-- Operands of the pins and constants among the elements. -/
def Mentions (w : FindWindow) (r : ValueRef) : Prop := ∃ p ∈ w.elements, p.Mentions r

end FindWindow

namespace Engine

variable {σ : Type} (e : Engine σ) (w : FindWindow) (items : List Value)

/-- A window at one start: what stands before it is bound, then its elements are matched. -/
def tryStart (k : Nat) : MatchM σ Bool := do
  e.bindSplat w.before (items.take k)
  e.matchEach w.elements ((items.drop k).take w.width)

/-- The state in which a start is tried. The starts before it have been tried, and what they bound
has been taken back. -/
def atStart (s : MatchState σ) : Nat → MatchState σ
  | 0 => s
  | k + 1 => { (e.tryStart w items k (atStart s k)).2 with bindings := s.bindings }

/-- The windows at a start and after it. -/
def searchFrom (start : Nat) : MatchM σ Bool :=
  e.tryWindows w.before w.after w.width (fun window => e.matchEach w.elements window) items
    (items.length + 1 - w.width - start) start

/-- Tried in a state, a start matches: each element matches the item at its place in the window. -/
def Works (k : Nat) (s : MatchState σ) : Prop :=
  ∃ last, e.MatchesFrom w.elements items k (e.afterSplat w.before (items.take k) s) last

/-- Tried in a state, a start ends in an error. -/
def Fails (k : Nat) (error : EvalError) (s : MatchState σ) : Prop :=
  (e.tryStart w items k s).1 = .error error

def Misses (k : Nat) (s : MatchState σ) : Prop :=
  ¬ e.Works w items k s ∧ ∀ error, ¬ e.Fails w items k error s

/-- A window has matched at a start: before its own bindings stands what is before the window, and
after them what is after it. -/
structure WindowTaken (k : Nat) (s s' : MatchState σ) : Prop where
  inside : k + w.width ≤ items.length
  whole : items = items.take k ++ (items.drop k).take w.width ++ items.drop (k + w.width)
  taken : ∃ last own,
    e.MatchesFrom w.elements items k (e.afterSplat w.before (items.take k) s) last ∧
    last.bindings.toList =
      s.bindings.toList ++ e.captured w.before (items.take k) s.session.world ++ own ∧
    s'.bindings.toList =
      s.bindings.toList ++ e.captured w.before (items.take k) s.session.world ++ own ++
        e.captured w.after (items.drop (k + w.width)) last.session.world

variable {e w items} {v : Value} {k : Nat} {s s₁ s' : MatchState σ}

@[simp]
theorem atStart_bindings (k : Nat) (s : MatchState σ) :
    (e.atStart w items s k).bindings = s.bindings := by
  cases k <;> rfl

theorem tryStart_eq_matchEach (k : Nat) (s : MatchState σ) :
    e.tryStart w items k s =
      e.matchEach w.elements (items.drop k) (e.afterSplat w.before (items.take k) s) := by
  rw [tryStart, FindWindow.width, matchEach_take]
  exact HostM.bind_of_ok (bindSplat_apply _ _ _) _

theorem tryStart_eq_true (inside : k + w.width ≤ items.length) :
    e.tryStart w items k s = (.ok true, s') ↔
      e.MatchesFrom w.elements items k (e.afterSplat w.before (items.take k) s) s' := by
  rw [tryStart_eq_matchEach]
  exact matchEach_eq_true inside

theorem works_iff (inside : k + w.width ≤ items.length) :
    e.Works w items k s ↔ (e.tryStart w items k s).1 = .ok true := by
  constructor
  · rintro ⟨last, matched⟩
    rw [(tryStart_eq_true inside).2 matched]
  · intro tried
    exact ⟨_, (tryStart_eq_true inside).1 (Prod.ext tried rfl)⟩

theorem misses_iff (inside : k + w.width ≤ items.length) :
    e.Misses w items k s ↔ (e.tryStart w items k s).1 = .ok false := by
  rw [Misses, works_iff inside]
  simp only [Fails]
  rcases (e.tryStart w items k s).1 with error | _ | _ <;> simp

/-- One start as a dialogue. -/
def askStart (names : Interner) (w : FindWindow) (items : List Value) (k : Nat) (bs : Bound) :
    Dialogue (Option Bound) :=
  Persistent.bindSplat w.before (items.take k) bs >>= fun bs' =>
    Persistent.matchEach names w.elements ((items.drop k).take w.width) bs'

theorem tryStart_refines (k : Nat) :
    Refines e.cached (e.tryStart w items k) (askStart e.names w items k) :=
  e.bindSplat_refines w.before (items.take k)
    (e.matchEach_refines (fun p _ => e.matchNode_refines p) _)

/-- One step of the search, on a host that is deaf to reports. -/
theorem searchFrom_step (inside : k + w.width ≤ items.length) (s : MatchState σ) :
    e.silent.searchFrom w items k s =
      match e.silent.tryStart w items k s with
      | (.ok true, last) =>
        (.ok true, e.silent.afterSplat w.after (items.drop (k + w.width)) last)
      | (.ok false, s') => e.silent.searchFrom w items (k + 1) { s' with bindings := s.bindings }
      | (.error error, s') => (.error error, s') := by
  have more : items.length + 1 - w.width - k = items.length + 1 - w.width - (k + 1) + 1 := by omega
  rw [searchFrom, more, tryWindows, HostM.bind_apply]
  have tried : MatchM.branch (e.silent.tryStart w items k) s = _ :=
    (tryStart_refines k).branch_apply s
  rw [tryStart] at tried
  rw [tried, ← tryStart]
  rcases e.silent.tryStart w items k s with ⟨error | _ | _, s'⟩
  · rfl
  · rfl
  · exact HostM.bind_of_ok (bindSplat_apply _ _ _) _

/-- No start is left. -/
theorem searchFrom_end (outside : items.length < k + w.width) (s : MatchState σ) :
    e.silent.searchFrom w items k s = (.ok false, s) := by
  have none : items.length + 1 - w.width - k = 0 := by omega
  rw [searchFrom, none]
  rfl

theorem matchNode_window {leading : List Pattern} {rest : Option Splat} {trailing : List Pattern}
    {openEnd : Bool} (asked : e.silent.sequence v s = (.ok (.supported items), s₁)) :
    e.silent.matchNode (.list ⟨leading, some w, rest, trailing, openEnd⟩) v s =
      e.silent.searchFrom w items 0 s₁ := by
  let shape : ListPattern := ⟨leading, some w, rest, trailing, openEnd⟩
  by_cases short : items.length < w.width
  · rw [searchFrom_end (by omega)]
    exact matchNode_list_short asked (show items.length < shape.minLen from short)
  · have opened : e.silent.itemsFor? shape v s = (.ok (some items), s₁) :=
      itemsFor?_of_enough asked (show w.width ≤ items.length by omega)
    have starts : items.length + 1 - w.width - 0 = items.length - w.width + 1 := by omega
    obtain ⟨before, elements, after⟩ := w
    rw [searchFrom, starts, matchNode, matchList]
    exact HostM.bind_of_ok opened _

/-- Starts that do not match only move on to the next one. -/
theorem searchFrom_missed (s : MatchState σ) (inside : k + w.width ≤ items.length + 1)
    (missed : ∀ j < k, (e.silent.tryStart w items j (e.silent.atStart w items s j)).1 = .ok false) :
    e.silent.searchFrom w items 0 s =
      e.silent.searchFrom w items k (e.silent.atStart w items s k) := by
  induction k with
  | zero => rfl
  | succ k ih =>
    have here := missed k (Nat.lt_succ_self k)
    rw [ih (by omega) fun j hj => missed j (Nat.lt_succ_of_lt hj), searchFrom_step (by omega),
      atStart]
    rcases tried : e.silent.tryStart w items k (e.silent.atStart w items s k) with
      ⟨error | _ | _, s'⟩
    · rw [tried] at here
      cases here
    · -- the bindings that are restored are those on entry
      simp only [atStart_bindings]
    · rw [tried] at here
      cases here

/-- Of finitely many starts none decides, or there is a first one that does. -/
theorem missed_or_first (missed : Nat → Prop) (n : Nat) :
    (∀ k < n, missed k) ∨ ∃ k < n, (∀ j < k, missed j) ∧ ¬ missed k := by
  induction n with
  | zero => exact .inl fun k hk => absurd hk (Nat.not_lt_zero k)
  | succ n ih =>
    rcases ih with all | ⟨k, hk, first, decides⟩
    · by_cases last : missed n
      · left
        intro k hk
        by_cases same : k = n
        · exact same ▸ last
        · exact all k (by omega)
      · exact .inr ⟨n, Nat.lt_succ_self n, all, last⟩
    · exact .inr ⟨k, by omega, first, decides⟩

/-- A whole search: the first start that does not miss decides, and without one there is no match
and nothing is left bound. -/
theorem searchFrom_cases (e : Engine σ) (w : FindWindow) (items : List Value) (s : MatchState σ) :
    let start := e.silent.atStart w items s
    (∃ k last, k + w.width ≤ items.length ∧ (∀ j < k, e.silent.Misses w items j (start j)) ∧
      e.silent.tryStart w items k (start k) = (.ok true, last) ∧
      e.silent.searchFrom w items 0 s =
        (.ok true, e.silent.afterSplat w.after (items.drop (k + w.width)) last)) ∨
    (∃ k error s', k + w.width ≤ items.length ∧ (∀ j < k, e.silent.Misses w items j (start j)) ∧
      e.silent.tryStart w items k (start k) = (.error error, s') ∧
      e.silent.searchFrom w items 0 s = (.error error, s')) ∨
    (∀ k, k + w.width ≤ items.length → e.silent.Misses w items k (start k)) ∧
      ∃ k, e.silent.searchFrom w items 0 s = (.ok false, start k) := by
  intro start
  let missed (k : Nat) : Prop := (e.silent.tryStart w items k (start k)).1 = .ok false
  rcases missed_or_first missed (items.length + 1 - w.width) with all | ⟨k, hk, first, decides⟩
  · right
    right
    refine ⟨fun k inside => (misses_iff inside).2 (all k (by omega)), ?_⟩
    by_cases short : items.length < w.width
    · exact ⟨0, searchFrom_end (by omega) s⟩
    · refine ⟨items.length + 1 - w.width, ?_⟩
      rw [searchFrom_missed s (by omega) all]
      exact searchFrom_end (by omega) _
  · have inside : k + w.width ≤ items.length := by omega
    have before : ∀ j < k, e.silent.Misses w items j (start j) := fun j hj =>
      (misses_iff (by omega)).2 (first j hj)
    have reached := searchFrom_missed s (by omega) first
    rw [searchFrom_step inside] at reached
    rcases tried : e.silent.tryStart w items k (start k) with ⟨error | _ | _, s'⟩
    · rw [tried] at reached
      exact .inr (.inl ⟨k, error, s', inside, before, tried, reached⟩)
    · exact absurd (congrArg Prod.fst tried) decides
    · rw [tried] at reached
      exact .inl ⟨k, s', inside, before, tried, reached⟩

/-- What is before the window, the window and what is after it are all items. -/
theorem windowTaken_of_tried (inside : k + w.width ≤ items.length) {last : MatchState σ}
    (tried : e.tryStart w items k s = (.ok true, last)) :
    e.WindowTaken w items k s (e.afterSplat w.after (items.drop (k + w.width)) last) := by
  have entered := tried
  rw [tryStart_eq_matchEach] at entered
  obtain ⟨own, grown⟩ := matchEach_grown entered
  rw [toList_afterSplat] at grown
  refine ⟨inside, ?_, last, own, (tryStart_eq_true inside).1 tried, grown.symm, ?_⟩
  · rw [← List.drop_drop, List.append_assoc, List.take_append_drop, List.take_append_drop]
  · rw [toList_afterSplat, ← grown]

/-- The search succeeds if a start works that no error comes before. -/
theorem searchFrom_succeeds (w : FindWindow) (items : List Value) (s : MatchState σ) :
    let start := e.silent.atStart w items s
    (e.silent.searchFrom w items 0 s).1 = .ok true ↔
      ∃ k, k + w.width ≤ items.length ∧ e.silent.Works w items k (start k) ∧
        ∀ j < k, ∀ error, ¬ e.silent.Fails w items j error (start j) := by
  intro start
  rcases e.searchFrom_cases w items s with ⟨k, last, inside, before, tried, ended⟩ |
    ⟨k, error, s', inside, before, tried, ended⟩ | ⟨all, k, ended⟩
  · have works : e.silent.Works w items k (start k) :=
      (works_iff inside).2 (congrArg Prod.fst tried)
    rw [ended]
    exact ⟨fun _ => ⟨k, inside, works, fun j hj => (before j hj).2⟩, fun _ => rfl⟩
  · rw [ended]
    constructor
    · intro failed
      cases failed
    rintro ⟨k', inside', works, clean⟩
    -- a start that works would have to come first, and after the error it does not
    exfalso
    rcases Nat.lt_trichotomy k k' with earlier | rfl | later
    · exact clean k earlier error (congrArg Prod.fst tried)
    · cases ((works_iff inside).1 works).symm.trans (congrArg Prod.fst tried)
    · exact (before k' later).1 works
  · rw [ended]
    constructor
    · intro missed
      cases missed
    rintro ⟨k', inside', works, -⟩
    exact absurd works (all k' inside').1

/-- The start that is taken is the first one that does not miss. -/
theorem searchFrom_takes (found : e.silent.searchFrom w items 0 s = (.ok true, s')) :
    let start := e.silent.atStart w items s
    ∃ k, (∀ j < k, e.silent.Misses w items j (start j)) ∧
      e.silent.WindowTaken w items k (start k) s' := by
  intro start
  rcases e.searchFrom_cases w items s with ⟨k, last, inside, before, tried, ended⟩ |
    ⟨k, error, t, inside, before, tried, ended⟩ | ⟨all, k, ended⟩
  · cases ended.symm.trans found
    exact ⟨k, before, windowTaken_of_tried inside tried⟩
  · cases ended.symm.trans found
  · cases ended.symm.trans found

/-- A search without success leaves nothing bound. -/
theorem searchFrom_of_false (missed : e.silent.searchFrom w items 0 s = (.ok false, s')) :
    s'.bindings = s.bindings := by
  rcases e.searchFrom_cases w items s with ⟨k, last, inside, before, tried, ended⟩ |
    ⟨k, error, t, inside, before, tried, ended⟩ | ⟨all, k, ended⟩
  · cases ended.symm.trans missed
  · cases ended.symm.trans missed
  · cases ended.symm.trans missed
    exact atStart_bindings k s

/-- The first start that does not miss ends the search with its error. -/
theorem searchFrom_fails {error : EvalError} (inside : k + w.width ≤ items.length)
    (failed : e.silent.Fails w items k error (e.silent.atStart w items s k))
    (before : ∀ j < k, e.silent.Misses w items j (e.silent.atStart w items s j)) :
    (e.silent.searchFrom w items 0 s).1 = .error error := by
  have missed : ∀ j, j < k →
      (e.silent.tryStart w items j (e.silent.atStart w items s j)).1 = .ok false := by
    intro j hj
    exact (misses_iff (by omega)).1 (before j hj)
  rw [searchFrom_missed s (by omega) missed, searchFrom_step inside]
  rcases tried : e.silent.tryStart w items k (e.silent.atStart w items s k) with ⟨_ | _ | _, s'⟩
  · cases (congrArg Prod.fst tried).symm.trans failed
    rfl
  · cases (congrArg Prod.fst tried).symm.trans failed
  · cases (congrArg Prod.fst tried).symm.trans failed

/-- If all starts miss, nothing is left bound. -/
theorem searchFrom_misses
    (all : ∀ k, k + w.width ≤ items.length →
      e.silent.Misses w items k (e.silent.atStart w items s k)) :
    (e.silent.searchFrom w items 0 s).1 = .ok false ∧
      (e.silent.searchFrom w items 0 s).2.bindings = s.bindings := by
  rcases e.searchFrom_cases w items s with ⟨k, last, inside, before, tried, ended⟩ |
    ⟨k, error, s', inside, before, tried, ended⟩ | ⟨-, k, ended⟩
  · exact absurd ((works_iff inside).2 (congrArg Prod.fst tried)) (all k inside).1
  · exact absurd (congrArg Prod.fst tried) ((all k inside).2 error)
  · rw [ended]
    exact ⟨rfl, atStart_bindings k s⟩

theorem askStart_keeps {S : Value → Prop} {refs : ValueRef → Prop} (names : Interner)
    (mentioned : ∀ r, w.Mentions r → refs r) (parts : ∀ u ∈ items, S u) (k : Nat) (bs : Bound) :
    (askStart names w items k bs).Keeps (.matching S refs) fun _ => True := by
  refine (Persistent.bindSplat_keeps w.before _ bs).bind fun bs' _ => ?_
  refine Persistent.matchEach_keeps (fun p hp => ?_) (fun u hu => ?_) bs'
  · exact Persistent.matchNode_keeps p fun r hr => mentioned r ⟨p, hp, hr⟩
  · exact parts u (List.mem_of_mem_drop (List.mem_of_mem_take hu))

section Still

variable {hooks : Hooks} (pure : e.host.PureHooks hooks)

include pure

/-- With kept answers as well, only a question for an identity changes the host. -/
theorem cached_still {refs : ValueRef → Prop} (still : e.host.Still refs) {q : Question}
    (asked : (Contract.matching (fun _ => True) refs).asks q) (t : Standing σ) :
    (e.silent.cached q t).2.session.env = t.session.env ∧
      e.host.Allocates t.session.world (e.silent.cached q t).2.session.world := by
  rcases q.opens_cases with ⟨v, rfl⟩ | ⟨p, v, rfl⟩ | plain
  · cases kept : t.cache.sequence? v with
    | some a =>
      rw [e.silent.cached_sequence_kept kept]
      exact ⟨rfl, .nothing⟩
    | none =>
      rw [e.silent.cached_sequence_asked kept, (silent_pureHooks pure).deconstruct]
      exact ⟨rfl, .nothing⟩
  · cases kept : t.cache.mapping? (e.mappingKey? v p.requestedKeys) with
    | some a =>
      rw [e.silent.cached_mapping_kept kept]
      exact ⟨rfl, .nothing⟩
    | none =>
      rw [e.silent.cached_mapping_asked kept, (silent_pureHooks pure).deconstructKeys]
      exact ⟨rfl, .nothing⟩
  · rw [e.silent.cached_of_plain plain]
    exact direct_still pure still asked t.session

theorem sequence_still (v : Value) (s : MatchState σ) :
    (e.silent.sequence v s).2.session = s.session := by
  cases kept : s.cache.sequence? v with
  | some a =>
    rw [e.silent.sequence_kept kept]
    rfl
  | none =>
    rw [e.silent.sequence_asked kept, (silent_pureHooks pure).deconstruct]
    rfl

theorem tryStart_still (still : e.host.Still w.Mentions) (k : Nat) (s : MatchState σ) :
    (e.silent.tryStart w items k s).2.session.env = s.session.env ∧
      e.host.Allocates s.session.world (e.silent.tryStart w items k s).2.session.world := by
  have step : ∀ (q : Question) (t : Standing σ),
      (Contract.matching (fun _ => True) w.Mentions).asks q →
      t.session.env = s.session.env ∧ e.host.Allocates s.session.world t.session.world →
      ((e.silent.cached q t).2.session.env = s.session.env ∧
        e.host.Allocates s.session.world (e.silent.cached q t).2.session.world) ∧
      ∀ a, (e.silent.cached q t).1 = .ok a →
        (Contract.matching (fun _ => True) w.Mentions).answers q a := by
    rintro q t asked ⟨env, before⟩
    obtain ⟨env', after⟩ := cached_still pure still asked t
    exact ⟨⟨env'.trans env, before.trans after⟩, fun a _ => Contract.any_answer a⟩
  have keeps : (askStart e.names w items k s.bindings.toList).Keeps
      (.matching (fun _ => True) w.Mentions) fun _ => True :=
    askStart_keeps e.names (fun _ hr => hr) (fun _ _ => trivial) k s.bindings.toList
  have start : s.standing.session.env = s.session.env ∧
      e.host.Allocates s.session.world s.standing.session.world := ⟨rfl, .nothing⟩
  have ended : (e.silent.tryStart w items k s).2.standing =
      (run e.silent.cached (askStart e.names w items k s.bindings.toList) s.standing).2 :=
    (tryStart_refines k s).standing_eq
  have kept := (run_invariant step keeps start).1
  rw [← ended] at kept
  exact kept

/-- Wherever a start is tried, the variables are those on entry. -/
theorem atStart_still (still : e.host.Still w.Mentions) (k : Nat) (s : MatchState σ) :
    (e.silent.atStart w items s k).session.env = s.session.env ∧
      e.host.Allocates s.session.world (e.silent.atStart w items s k).session.world := by
  induction k with
  | zero => exact ⟨rfl, .nothing⟩
  | succ k ih =>
    obtain ⟨env, before⟩ := ih
    obtain ⟨env', after⟩ := tryStart_still pure still k (e.silent.atStart w items s k)
    exact ⟨env'.trans env, before.trans after⟩

variable (respect : hooks.RespectIdentity v) (suits : e.config.keysCache.Suits hooks)

include respect

theorem sequence_faithful (faithful : e.Faithful hooks v s.cache)
    (asked : e.silent.sequence v s = (.ok (.supported items), s₁)) :
    (∀ u ∈ items, hooks.Reaches v u) ∧ e.Faithful hooks v s₁.cache := by
  obtain ⟨cache, answered, faithful'⟩ :=
    cached_sequence pure respect .root (t := s.standing) faithful
  have read := e.silent.sequence_reads v s
  rw [run_put, asked] at read
  rw [answered] at read
  have found : hooks.items v = .ok (.supported items) := (congrArg Prod.fst read).symm
  have left : s₁.cache = cache := congrArg (fun x => x.2.cache) read
  exact ⟨fun u hu => .item .root found hu, left ▸ faithful'⟩

include suits

/-- What comes of a start does not depend on the answers kept so far. -/
theorem tryStart_faithful (inside : ∀ u ∈ items, hooks.Reaches v u) (k : Nat)
    (faithful : e.Faithful hooks v s.cache) :
    (e.silent.tryStart w items k s).1 =
      (run e.silent.direct (askStart e.names w items k s.bindings.toList) s.session).1.map
        Option.isSome ∧
    e.Faithful hooks v (e.silent.tryStart w items k s).2.cache := by
  have keeps : (askStart e.names w items k s.bindings.toList).Keeps (.opening (hooks.Reaches v))
      fun _ => True :=
    (askStart_keeps e.names (fun _ hr => hr) inside k s.bindings.toList).weaken
      (fun _ asked => asked.1) fun _ _ answered => answered
  obtain ⟨cache, agrees, faithful'⟩ :=
    run_cached_eq_direct (t := s.standing) pure respect suits keeps faithful
  have tried : Agrees s.bindings.toList (e.silent.tryStart w items k s)
      (run e.silent.cached (askStart e.names w items k s.bindings.toList) s.standing) :=
    tryStart_refines k s
  rw [agrees] at tried
  have left : (e.silent.tryStart w items k s).2.cache = cache :=
    congrArg Standing.cache tried.standing_eq
  rw [left]
  exact ⟨tried.result_eq, faithful'⟩

theorem atStart_faithful (inside : ∀ u ∈ items, hooks.Reaches v u) (k : Nat)
    (faithful : e.Faithful hooks v s.cache) :
    e.Faithful hooks v (e.silent.atStart w items s k).cache := by
  induction k with
  | zero => exact faithful
  | succ k ih => exact (tryStart_faithful pure respect suits inside k ih).2

end Still

/-- A rest takes exactly the items between the two ends. A window is found if there is a start that
works and no earlier one ends in an error; the first such start is taken, and the first error ends
the search. Without either, the bindings are as on entry. A start works if the elements match from
the bindings on entry with what is before the window. Where tests, operands and hooks change
nothing, each start is tried with the variables on entry, and on the host but for identities that
earlier starts took; answers kept from these do not matter if those that may be shared are the
same. -/
theorem captures_partition_items (e : Engine σ) (v : Value) (items : List Value)
    {s s₁ : MatchState σ} (asked : e.silent.sequence v s = (.ok (.supported items), s₁)) :
    (∀ leading rest trailing openEnd s',
      e.silent.matchNode (.list ⟨leading, none, some rest, trailing, openEnd⟩) v s =
        (.ok true, s') → e.silent.RestTaken leading rest trailing items s₁ s') ∧
    ∀ leading w rest trailing openEnd,
      let found := e.silent.matchNode (.list ⟨leading, some w, rest, trailing, openEnd⟩) v s
      let start := e.silent.atStart w items s₁
      let inside (k : Nat) : Prop := k + w.width ≤ items.length
      let works (k : Nat) : Prop := e.silent.Works w items k (start k)
      let fails (k : Nat) (error : EvalError) : Prop := e.silent.Fails w items k error (start k)
      let misses (k : Nat) : Prop := e.silent.Misses w items k (start k)
      (found.1 = .ok true ↔ ∃ k, inside k ∧ works k ∧ ∀ j < k, ∀ error, ¬ fails j error) ∧
      (∀ s', found = (.ok true, s') →
        ∃ k, (∀ j < k, misses j) ∧ e.silent.WindowTaken w items k (start k) s') ∧
      (∀ k error, inside k → fails k error → (∀ j < k, misses j) → found.1 = .error error) ∧
      ((∀ k, inside k → misses k) → found.1 = .ok false ∧ found.2.bindings = s.bindings) ∧
      (∀ k, (start k).bindings = s.bindings) ∧
      ∀ hooks, e.host.PureHooks hooks → e.host.Still w.Mentions → ∀ k,
        (start k).session.env = s.session.env ∧
        e.host.Allocates s.session.world (start k).session.world ∧
        (hooks.RespectIdentity v → e.config.keysCache.Suits hooks → e.Faithful hooks v s.cache →
          ∀ cache, e.Faithful hooks v cache →
            (e.silent.tryStart w items k { start k with cache }).1 =
              (e.silent.tryStart w items k (start k)).1) := by
  refine ⟨fun leading rest trailing openEnd s' => restTaken_of_matched asked, ?_⟩
  intro leading w rest trailing openEnd found start inside works fails misses
  have searched : found = e.silent.searchFrom w items 0 s₁ := matchNode_window asked
  have onEntry : s₁.bindings = s.bindings := sequence_bindings asked
  rw [searched]
  refine ⟨searchFrom_succeeds w items s₁, fun s' taken => searchFrom_takes taken,
    fun k error hk failed before => searchFrom_fails hk failed before, fun all => ?_,
    fun k => (atStart_bindings k s₁).trans onEntry, fun hooks pure still k => ?_⟩
  · obtain ⟨missed, bindings⟩ := searchFrom_misses all
    exact ⟨missed, bindings.trans onEntry⟩
  · have session : s₁.session = s.session := by
      have left := sequence_still pure v s
      rwa [asked] at left
    obtain ⟨env, world⟩ := atStart_still pure still k s₁
    rw [session] at env world
    refine ⟨env, world, fun respect suits faithful cache faithful' => ?_⟩
    obtain ⟨reached, faithful₁⟩ := sequence_faithful pure respect faithful asked
    have here : e.Faithful hooks v (start k).cache :=
      atStart_faithful pure respect suits reached k faithful₁
    have judged : (e.silent.tryStart w items k (start k)).1 = _ :=
      (tryStart_faithful pure respect suits reached k here).1
    have judged' : (e.silent.tryStart w items k { start k with cache }).1 = _ :=
      (tryStart_faithful pure respect suits reached k faithful').1
    exact judged'.trans judged.symm

end Engine

/-- The first start misses and the second one works. -/
theorem captures_partition_items_sample :
    let e : Engine Nat := ⟨.reading .nil, .new, .standard⟩
    let shape : ListPattern :=
      .window (.named (.localVar ⟨1⟩)) [.literal .nil] (.named (.localVar ⟨2⟩))
    let array : Value := .array ⟨0⟩ [.bool true, .nil, .bool false]
    (e.silent.matchNode (.list shape) array ⟨⟨.empty, 3⟩, .empty, .empty⟩).1 = .ok true := by
  intro e shape array
  let w : FindWindow := ⟨.named (.localVar ⟨1⟩), [.literal .nil], .named (.localVar ⟨2⟩)⟩
  let items : List Value := [.bool true, .nil, .bool false]
  obtain ⟨s₁, asked⟩ : ∃ s₁, e.silent.sequence array ⟨⟨.empty, 3⟩, .empty, .empty⟩ =
      (.ok (.supported items), s₁) := ⟨_, e.silent.sequence_asked (Cache.sequence?_empty _)⟩
  obtain ⟨-, windows⟩ := e.captures_partition_items array items asked
  apply (windows [] w none [] false).1.2
  refine ⟨1, by decide, (Engine.works_iff (by decide)).2 rfl, ?_⟩
  intro j hj error failed
  obtain rfl := Nat.lt_one_iff.1 hj
  cases failed

/-- The second start works from the bindings on entry, but the first one ends in an error: its item
is no `nil`, and the variable that the other branch mentions does not exist. -/
theorem earlier_error_hides_window :
    let e : Engine Nat := ⟨.reading .nil, .new, .standard⟩
    let w : FindWindow :=
      ⟨.anonymous, [.either [.literal .nil, .pin (.localVar ⟨1⟩)]], .anonymous⟩
    let items : List Value := [.bool true, .nil]
    let s : MatchState Nat := ⟨⟨.empty, 0⟩, .empty, .empty⟩
    e.host.PureHooks .own ∧ e.host.Still (fun _ => True) ∧ e.silent.Works w items 1 s ∧
    (e.silent.matchNode (.list (.window w.before w.elements w.after)) (.array ⟨0⟩ items) s).1 =
      .error (.undefinedVariable (e.names.text ⟨1⟩)) := by
  intro e w items s
  refine ⟨⟨fun _ _ => rfl, fun _ _ _ => rfl⟩, Host.reading_still .nil _,
    (Engine.works_iff (by decide)).2 rfl, ?_⟩
  obtain ⟨cache, asked⟩ : ∃ cache, e.silent.sequence (.array ⟨0⟩ items) s =
      (.ok (.supported items), ⟨s.session, s.bindings, cache⟩) :=
    ⟨_, e.silent.sequence_asked (Cache.sequence?_empty _)⟩
  have failed : e.silent.Fails w items 0 (.undefinedVariable (e.names.text ⟨1⟩))
      ⟨s.session, s.bindings, cache⟩ := rfl
  have searched : e.silent.matchNode (.list (.window w.before w.elements w.after))
      (.array ⟨0⟩ items) s = e.silent.searchFrom w items 0 ⟨s.session, s.bindings, cache⟩ :=
    Engine.matchNode_window asked
  rw [searched]
  exact Engine.searchFrom_fails (by decide) failed fun j hj => absurd hj (Nat.not_lt_zero j)

end PatternDispatch
