import PatternDispatch.Proofs.Questions

/-! What the parts of a pattern ask for and what they bind. Every question of an attempt to match
belongs to a part of the pattern in hand, and the targets bound stand in the pattern in the order in
which they were bound. Where no part can be left out, every target is bound. -/
namespace PatternDispatch

namespace ListPattern

/-- The combinations that programs write. -/
def Documented (shape : ListPattern) : Prop :=
  (∃ leading, shape = .exact leading) ∨
  (∃ leading rest trailing, shape = .withRest leading rest trailing) ∨
  (∃ before elements after, shape = .window before elements after) ∨
  ∃ leading, shape = .openEnded leading

variable {leading trailing : List Pattern} {rest : Option Splat} {w : FindWindow} {openEnd : Bool}

theorem Documented.no_trailing (h : Documented ⟨leading, none, none, trailing, openEnd⟩) :
    trailing = [] := by
  rcases h with ⟨_, ⟨⟩⟩ | ⟨_, _, _, ⟨⟩⟩ | ⟨_, _, _, ⟨⟩⟩ | ⟨_, ⟨⟩⟩
  · rfl
  · rfl

theorem Documented.window_alone (h : Documented ⟨leading, some w, rest, trailing, openEnd⟩) :
    leading = [] ∧ rest = none ∧ trailing = [] := by
  rcases h with ⟨_, ⟨⟩⟩ | ⟨_, _, _, ⟨⟩⟩ | ⟨_, _, _, ⟨⟩⟩ | ⟨_, ⟨⟩⟩
  exact ⟨rfl, rfl, rfl⟩

end ListPattern

namespace Pattern

/-- A pattern is part of itself, and of each pattern that one of its parts stands in. -/
inductive Within (q : Pattern) : Pattern → Prop where
  | here : Within q q
  | branch {p : Pattern} {branches : List Pattern} (h : p ∈ branches) (inside : Within q p) :
    Within q (.either branches)
  | capture {p : Pattern} {t : BindTarget} (inside : Within q p) : Within q (.capture p t)
  | inner {r : ValueRef} {p : Pattern} (inside : Within q p) : Within q (.constant r (some p))
  | leading {shape : ListPattern} {p : Pattern} (h : p ∈ shape.leading) (inside : Within q p) :
    Within q (.list shape)
  | element {shape : ListPattern} {w : FindWindow} {p : Pattern} (hw : shape.find = some w)
    (h : p ∈ w.elements) (inside : Within q p) : Within q (.list shape)
  | trailing {shape : ListPattern} {p : Pattern} (h : p ∈ shape.trailing) (inside : Within q p) :
    Within q (.list shape)
  | entry {shape : HashPattern} {n : Name} {p : Pattern} (h : (n, p) ∈ shape.entries)
    (inside : Within q p) : Within q (.hash shape)

/-- Every part matches whenever the pattern does: nothing is left to alternatives, and lists have
the combinations that programs write. -/
structure Straight (p : Pattern) : Prop where
  no_either (branches : List Pattern) : ¬ (either branches).Within p
  documented (shape : ListPattern) (h : (list shape).Within p) : shape.Documented

/-- Questions that matching a pattern may ask. -/
def Asks (p : Pattern) : Question → Prop
  | .visible n => p.Mentions (.localVar n)
  | .external r => p.Mentions (.external r)
  | .evalWith _ x => p.Mentions (.expr x)
  | .caseEq a _ => (literal a).Within p ∨ ∃ r, p.Mentions r
  | .sequence _ => ∃ shape, (list shape).Within p
  | .mapping shape _ => (hash shape).Within p
  | .fresh | .report _ => True
  | .eval _ | .declare _ | .store _ _ | .render _ => False

/-- A pattern that stands in another one asks nothing else. -/
theorem Asks.mono {p p' : Pattern} (parts : ∀ q : Pattern, q.Within p → q.Within p')
    (mentions : ∀ r, p.Mentions r → p'.Mentions r) {q : Question} (h : p.Asks q) : p'.Asks q := by
  cases q with
  | visible n => exact mentions _ h
  | external r => exact mentions _ h
  | evalWith bs x => exact mentions _ h
  | caseEq a v => exact h.imp (parts _) fun ⟨r, hr⟩ => ⟨r, mentions r hr⟩
  | sequence v => exact h.imp fun shape => parts _
  | mapping shape v => exact parts _ h
  | fresh => trivial
  | report event => trivial
  | _ => exact h.elim

theorem Straight.mono {p p' : Pattern} (parts : ∀ q : Pattern, q.Within p → q.Within p')
    (h : p'.Straight) : p.Straight :=
  ⟨fun branches inside => h.no_either branches (parts _ inside),
    fun shape inside => h.documented shape (parts _ inside)⟩

end Pattern

namespace Bound

/-- Bindings made after others: of some of the targets in their order, and of all if `all` holds. -/
def Adds (ts : List BindTarget) (all : Prop) (bs bs' : Bound) : Prop :=
  ∃ new, bs' = bs ++ new ∧ (new.map Prod.fst).Sublist ts ∧ (all → new.map Prod.fst = ts)

variable {ts ts' : List BindTarget} {all all' : Prop} {bs bs' bs'' : Bound}

theorem Adds.none (bs : Bound) : Adds [] all bs bs :=
  ⟨[], (List.append_nil bs).symm, List.Sublist.refl _, fun _ => rfl⟩

theorem Adds.one (bs : Bound) (t : BindTarget) (v : Value) : Adds [t] all bs (bs ++ [(t, v)]) :=
  ⟨[(t, v)], rfl, List.Sublist.refl _, fun _ => rfl⟩

theorem Adds.append (first : Adds ts all bs bs') (second : Adds ts' all bs' bs'') :
    Adds (ts ++ ts') all bs bs'' := by
  obtain ⟨new, rfl, some, every⟩ := first
  obtain ⟨new', rfl, some', every'⟩ := second
  refine ⟨new ++ new', List.append_assoc bs new new', ?_, fun h => ?_⟩
  · rw [List.map_append]
    exact some.append some'
  · rw [List.map_append, every h, every' h]

/-- More targets may be declared than there are; then not all are bound. -/
theorem Adds.mono (added : Adds ts all bs bs') (more : ts.Sublist ts')
    (whole : all' → all ∧ ts = ts') : Adds ts' all' bs bs' := by
  obtain ⟨new, rfl, some, every⟩ := added
  refine ⟨new, rfl, some.trans more, fun h => ?_⟩
  obtain ⟨ha, rfl⟩ := whole h
  exact every ha

end Bound

namespace Contract

/-- Some questions, with any answers. -/
def only (asks : Question → Prop) : Contract := ⟨asks, fun _ _ => True⟩

end Contract

namespace Dialogue

variable {c : Contract}

theorem Keeps.imp {α : Type} {P Q : α → Prop} {d : Dialogue α} (h : d.Keeps c P)
    (himp : ∀ a, P a → Q a) : d.Keeps c Q := by
  induction d with
  | done a => exact himp a h
  | fail error => trivial
  | ask q next ih => exact ⟨h.1, fun a ha => ih a (h.2 a ha)⟩

end Dialogue

namespace Persistent

open Dialogue PatternDispatch.Bound

variable {names : Interner} {asks : Question → Prop} {ts ts' : List BindTarget} {all all' : Prop}
  {bs : Bound} {d d' : Dialogue (Option Bound)} {k : Bound → Dialogue (Option Bound)}

/-- A dialogue asks certain questions only, and binds targets after others. -/
def Binds (asks : Question → Prop) (ts : List BindTarget) (all : Prop) (bs : Bound)
    (d : Dialogue (Option Bound)) : Prop :=
  d.Keeps (.only asks) fun found => ∀ bs' ∈ found, Adds ts all bs bs'

namespace Binds

theorem some {bs' : Bound} (h : Adds ts all bs bs') : Binds asks ts all bs (.done (.some bs')) := by
  rintro _ ⟨⟩
  exact h

theorem none : Binds asks ts all bs (.done .none) := by
  rintro _ ⟨⟩

/-- A test binds nothing. -/
theorem test (b : Bool) : Binds asks [] all bs (.done (if b then .some bs else .none)) := by
  cases b with
  | true => exact some (.none bs)
  | false => exact none

theorem asking {α : Type} {P : α → Prop} {a : Dialogue α} {f : α → Dialogue (Option Bound)}
    (ha : a.Keeps (.only asks) P) (hf : ∀ x, P x → Binds asks ts all bs (f x)) :
    Binds asks ts all bs (a >>= f) :=
  Keeps.bind ha hf

theorem mono (h : Binds asks ts all bs d) (more : ts.Sublist ts') (whole : all' → all ∧ ts = ts') :
    Binds asks ts' all' bs d :=
  Keeps.imp h fun _ added bs' found => (added bs' found).mono more whole

theorem whole (h : Binds asks ts all bs d) (himp : all' → all) : Binds asks ts all' bs d :=
  h.mono (List.Sublist.refl ts) fun h => ⟨himp h, rfl⟩

/-- One part after the other, or else another dialogue from the same bindings. -/
theorem branch (hd : Binds asks ts all bs d) (hk : ∀ bs', Binds asks ts' all bs' (k bs'))
    (hd' : Binds asks (ts ++ ts') all bs d') :
    Binds asks (ts ++ ts') all bs (d >>= fun
      | .some bs' => k bs'
      | .none => d') := by
  refine Keeps.bind hd fun found added => ?_
  cases found with
  | none => exact hd'
  | some bs' =>
    exact Keeps.imp (hk bs') fun _ later bs'' found => (added bs' rfl).append (later bs'' found)

theorem both (hd : Binds asks ts all bs d) (hk : ∀ bs', Binds asks ts' all bs' (k bs')) :
    Binds asks (ts ++ ts') all bs (d >>= fun
      | .some bs' => k bs'
      | .none => pure .none) :=
  hd.branch hk none

end Binds

theorem resolve_asks {p : Pattern} (hp : ∀ q, p.Asks q → asks q) {r : ValueRef}
    (mentioned : p.Mentions r) (bs : Bound) :
    (resolve names bs r).Keeps (.only asks) fun _ => True := by
  cases r with
  | localVar n =>
    simp only [resolve]
    cases bs.last? (.localVar n) with
    | some v => trivial
    | none =>
      refine ⟨hp (.visible n) mentioned, fun found _ => ?_⟩
      cases found <;> trivial
  | external r =>
    simp only [resolve]
    cases bs.last? (.external r) with
    | some v => trivial
    | none => exact ⟨hp (.external r) mentioned, fun _ _ => trivial⟩
  | expr x => exact ⟨hp (.evalWith bs x) mentioned, fun _ _ => trivial⟩
  | inline v => trivial

theorem caseEq_binds {a v : Value} (ha : asks (.caseEq a v)) :
    Binds asks [] all bs
      (put (.caseEq a v) >>= fun found => pure (if found then some bs else none)) :=
  .asking (keeps_put ha) fun found _ => .test found

/-- A splat comes before what follows it. -/
theorem bindSplat_binds (fresh : asks .fresh) (s : Splat) (items : List Value)
    (hk : ∀ bs', Binds asks ts all bs' (k bs')) :
    Binds asks (s.target?.toList ++ ts) all bs (bindSplat s items bs >>= k) := by
  cases s with
  | anonymous => exact hk bs
  | named t =>
    refine ⟨fresh, fun id _ => ?_⟩
    exact Keeps.imp (hk _) fun _ later bs' found =>
      (Adds.one bs t (.array id items)).append (later bs' found)

/-- Items are at least as many as the pattern needs. -/
theorem itemsFor?_asks (shape : ListPattern) {v : Value} (hv : asks (.sequence v)) :
    (itemsFor? shape v).Keeps (.only asks) fun items? =>
      ∀ items ∈ items?, shape.minLen ≤ items.length := by
  refine Keeps.bind (keeps_put hv) fun answer _ => ?_
  cases answer with
  | supported items =>
    change ∀ items' ∈ (if items.length < shape.minLen then none else some items),
      shape.minLen ≤ items'.length
    intro items' h
    split at h
    · cases h
    · cases h
      omega
  | unsupported => exact keeps_done (by simp)
  | wrongShape error => trivial

theorem windows_binds (fresh : asks .fresh) (report : ∀ event, asks (.report event))
    (before after : Splat) (width : Nat)
    {attempt : List Value → Bound → Dialogue (Option Bound)}
    (hm : ∀ window bs, Binds asks ts (all ∧ width ≤ window.length) bs (attempt window bs))
    (items : List Value) (bs : Bound) (remaining start : Nat)
    (room : start + remaining + width ≤ items.length + 1) :
    Binds asks ((before.target?.toList ++ ts) ++ after.target?.toList) all bs
      (windows before after width attempt items bs remaining start) := by
  induction remaining generalizing start with
  | zero => exact ⟨report _, fun _ _ => Binds.none⟩
  | succ remaining ih =>
    have long : width ≤ ((items.drop start).take width).length := by
      rw [List.length_take, List.length_drop]
      omega
    have inside (bs' : Bound) :
        Binds asks ts all bs' (attempt ((items.drop start).take width) bs') :=
      (hm _ bs').whole fun h => ⟨h, long⟩
    have closed (bs' : Bound) : Binds asks after.target?.toList all bs'
        (put (.report (.windowMatched start width)) >>= fun _ =>
          bindSplat after (items.drop (start + width)) bs' >>= fun bs'' => pure (some bs'')) := by
      refine ⟨report _, fun _ _ => ?_⟩
      rw [← List.append_nil after.target?.toList]
      exact bindSplat_binds fresh after _ fun bs'' => .some (.none bs'')
    have opened : Binds asks (before.target?.toList ++ ts) all bs
        (bindSplat before (items.take start) bs >>= attempt ((items.drop start).take width)) :=
      bindSplat_binds fresh before (items.take start) inside
    have found := opened.branch closed (ih (start + 1) (by omega))
    simp only [bind_assoc] at found
    exact found

/-- What a hash pattern binds after its entries. -/
def restTargets (shape : HashPattern) : List BindTarget :=
  match shape.rest with
  | .named t => [t]
  | _ => []

theorem matchRest_binds (fresh : asks .fresh) (shape : HashPattern) (pairs : Pairs) (bs : Bound) :
    Binds asks (restTargets shape) all bs (matchRest shape pairs bs) := by
  unfold matchRest restTargets
  cases shape.rest with
  | absent => exact .some (.none bs)
  | ignored => exact .some (.none bs)
  | closed => exact .test _
  | named t => exact ⟨fresh, fun id _ => Binds.some (.one bs t _)⟩

/-- A pattern asks what its parts ask, and binds its targets in their order. -/
def NodeBinds (names : Interner) (asks : Question → Prop) (p : Pattern) : Prop :=
  ∀ v bs, Binds asks p.targets p.Straight bs (matchNode names p v bs)

theorem matchAny_binds {ps : List Pattern} (hps : ∀ p ∈ ps, NodeBinds names asks p) (v : Value)
    (bs : Bound) : Binds asks (Pattern.targetsAll ps) False bs (matchAny names ps v bs) := by
  induction ps with
  | nil => exact .none
  | cons p ps ih =>
    have first := (hps p List.mem_cons_self v bs).mono
      (List.sublist_append_left p.targets (Pattern.targetsAll ps)) False.elim
    have later := (ih fun q hq => hps q (List.mem_cons_of_mem p hq)).mono
      (List.sublist_append_right p.targets (Pattern.targetsAll ps)) False.elim
    rw [← List.append_nil (Pattern.targetsAll (p :: ps))]
    rw [← List.append_nil (p.targets ++ Pattern.targetsAll ps)] at later
    simp only [matchAny, Pattern.targetsAll]
    exact first.branch (fun bs' => .some (.none bs')) later

theorem matchEach_binds {ps : List Pattern} (hps : ∀ p ∈ ps, NodeBinds names asks p)
    (vs : List Value) (bs : Bound) :
    Binds asks (Pattern.targetsAll ps) ((∀ p ∈ ps, p.Straight) ∧ ps.length ≤ vs.length) bs
      (matchEach names ps vs bs) := by
  induction ps generalizing vs bs with
  | nil => exact .some (.none bs)
  | cons p ps ih =>
    cases vs with
    | nil =>
      -- the remaining patterns get no item, so they bind nothing
      have nothing : Binds asks [] False bs (.done (some bs)) := .some (.none bs)
      refine nothing.mono (List.nil_sublist _) fun h => ?_
      simpa using h.2
    | cons v vs =>
      have first := (hps p List.mem_cons_self v bs).whole
        fun (h : (∀ q ∈ p :: ps, q.Straight) ∧ (p :: ps).length ≤ (v :: vs).length) =>
          h.1 p List.mem_cons_self
      simp only [matchEach, Pattern.targetsAll]
      refine first.both fun bs' => (ih (fun q hq => hps q (List.mem_cons_of_mem p hq)) vs bs').whole
        fun h => ⟨fun q hq => h.1 q (List.mem_cons_of_mem p hq), Nat.le_of_succ_le_succ h.2⟩

theorem matchEntries_binds {entries : List (Name × Pattern)}
    (hes : ∀ entry ∈ entries, NodeBinds names asks entry.2) (pairs : Pairs) (bs : Bound) :
    Binds asks (Pattern.targetsEntries entries) (∀ entry ∈ entries, entry.2.Straight) bs
      (matchEntries names entries pairs bs) := by
  induction entries generalizing bs with
  | nil => exact .some (.none bs)
  | cons entry entries ih =>
    obtain ⟨n, p⟩ := entry
    simp only [matchEntries, Pattern.targetsEntries]
    cases pairs.getSymbol? n with
    | none => exact .none
    | some v =>
      have first := (hes (n, p) List.mem_cons_self v bs).whole
        fun (h : ∀ entry ∈ (n, p) :: entries, entry.2.Straight) => h (n, p) List.mem_cons_self
      exact first.both fun bs' =>
        (ih (fun other ho => hes other (List.mem_cons_of_mem _ ho)) bs').whole
        fun h other ho => h other (List.mem_cons_of_mem _ ho)

theorem targets_hash (shape : HashPattern) :
    (Pattern.hash shape).targets = Pattern.targetsEntries shape.entries ++ restTargets shape := by
  obtain ⟨entries, rest⟩ := shape
  cases rest <;> simp [Pattern.targets, restTargets]

theorem matchHash_binds (shape : HashPattern)
    (hes : ∀ entry ∈ shape.entries, NodeBinds names asks entry.2)
    (ha : ∀ q, (Pattern.hash shape).Asks q → asks q) (v : Value) (bs : Bound) :
    Binds asks (Pattern.hash shape).targets (Pattern.hash shape).Straight bs
      (matchHash names shape v bs) := by
  rw [targets_hash]
  obtain ⟨entries, rest⟩ := shape
  simp only [matchHash]
  refine .asking (keeps_put (ha (.mapping _ v) .here)) fun answer _ => ?_
  cases answer with
  | supported m =>
    have each := (matchEntries_binds hes m.pairs bs).whole
      fun (straight : (Pattern.hash ⟨entries, rest⟩).Straight) entry he =>
        straight.mono fun q inside => .entry he inside
    exact each.both fun bs' => matchRest_binds (ha .fresh trivial) _ m.pairs bs'
  | unsupported => exact .none
  | wrongShape error => trivial

theorem matchList_binds (shape : ListPattern) (hl : ∀ p ∈ shape.leading, NodeBinds names asks p)
    (hw : ∀ w ∈ shape.find, ∀ p ∈ w.elements, NodeBinds names asks p)
    (ht : ∀ p ∈ shape.trailing, NodeBinds names asks p)
    (ha : ∀ q, (Pattern.list shape).Asks q → asks q) (v : Value) (bs : Bound) :
    Binds asks (Pattern.list shape).targets (Pattern.list shape).Straight bs
      (matchList names shape v bs) := by
  have items := itemsFor?_asks shape (ha (.sequence v) ⟨shape, .here⟩)
  have fresh : asks .fresh := ha .fresh trivial
  obtain ⟨leading, find, rest, trailing, openEnd⟩ := shape
  dsimp only at hl hw ht
  rcases find with _ | ⟨before, elements, after⟩
  · have front (items : List Value) (enough : leading.length + trailing.length ≤ items.length)
        (bs : Bound) := (matchEach_binds hl (items.take leading.length) bs).whole
      fun (straight : (Pattern.list ⟨leading, none, rest, trailing, openEnd⟩).Straight) =>
        ⟨fun p hp => straight.mono fun q inside => .leading hp inside, by
          rw [List.length_take]
          omega⟩
    simp only [Pattern.targets]
    cases rest with
    | none =>
      simp only [matchList]
      refine .asking items fun items? enough => ?_
      cases items? with
      | none => exact .none
      | some items =>
        dsimp only
        split
        · refine (front items (enough items rfl) bs).mono ?_ fun straight => ⟨straight, ?_⟩
          · simp
          · simp [(straight.documented _ .here).no_trailing, Pattern.targetsAll]
        · exact .none
    | some rest =>
      simp only [matchList]
      refine .asking items fun items? enough => ?_
      cases items? with
      | none => exact .none
      | some items =>
        have long := enough items rfl
        have back (bs : Bound) :=
          (matchEach_binds ht (items.drop (items.length - trailing.length)) bs).whole
          fun (straight : (Pattern.list ⟨leading, none, some rest, trailing, openEnd⟩).Straight) =>
            ⟨fun p hp => straight.mono fun q inside => .trailing hp inside, by
              rw [List.length_drop]
              change leading.length + trailing.length ≤ items.length at long
              omega⟩
        rw [List.append_assoc]
        exact (front items long bs).both fun bs' => bindSplat_binds fresh rest _ back
  · simp only [matchList]
    refine .asking items fun items? enough => ?_
    cases items? with
    | none => exact .none
    | some items =>
      have wide : elements.length ≤ items.length := enough items rfl
      have room :
          0 + (items.length - elements.length + 1) + elements.length ≤ items.length + 1 := by
        omega
      have inside (window : List Value) (bs : Bound) :=
        (matchEach_binds (hw _ rfl) window bs).whole
        fun (h : (Pattern.list ⟨leading, some ⟨before, elements, after⟩, rest, trailing,
            openEnd⟩).Straight ∧ elements.length ≤ window.length) =>
          ⟨fun p hp => h.1.mono fun q inside => .element rfl hp inside, h.2⟩
      have found := windows_binds fresh (fun event => ha (.report event) trivial) before after
        elements.length inside items bs _ 0 room
      refine found.mono ?_ fun straight => ⟨straight, ?_⟩
      · simp only [Pattern.targets]
        exact (List.sublist_append_right _ _).trans
          ((List.sublist_append_left _ _).trans (List.sublist_append_left _ _))
      · obtain ⟨rfl, rfl, rfl⟩ := (straight.documented _ .here).window_alone
        simp [Pattern.targets, Pattern.targetsAll]

theorem matchNode_binds (p : Pattern) (ha : ∀ q, p.Asks q → asks q) : NodeBinds names asks p := by
  induction p using Pattern.induction with
  | literal l =>
    intro v bs
    exact caseEq_binds (ha (.caseEq l v) (.inl .here))
  | binding t =>
    intro v bs
    exact .some (.one bs t v)
  | wildcard =>
    intro v bs
    exact .some (.none bs)
  | discard n =>
    intro v bs
    exact .some (.none bs)
  | pin r =>
    intro v bs
    exact .asking (resolve_asks ha .pin bs) fun operand _ =>
      caseEq_binds (ha (.caseEq operand v) (.inr ⟨r, .pin⟩))
  | either branches ih =>
    intro v bs
    have each (p : Pattern) (hp : p ∈ branches) : NodeBinds names asks p :=
      ih p hp fun q hq => ha q (hq.mono (fun _ => .branch hp) fun _ => .branch hp)
    exact (matchAny_binds each v bs).whole fun straight => straight.no_either branches .here
  | capture inner t ih =>
    intro v bs
    have inside := ih fun q hq => ha q (hq.mono (fun _ => .capture) fun _ => .capture)
    exact ((inside v bs).whole fun straight => straight.mono fun _ => .capture).both
      fun bs' => .some (.one bs' t v)
  | constant r inner ih =>
    intro v bs
    refine .asking (resolve_asks ha .constant bs) fun operand _ => ?_
    refine .asking (keeps_put (ha (.caseEq operand v) (.inr ⟨r, .constant⟩))) fun found _ => ?_
    cases found with
    | false => exact .none
    | true =>
      cases inner with
      | none => exact .some (.none bs)
      | some p =>
        have inside := ih p rfl fun q hq => ha q (hq.mono (fun _ => .inner) fun _ => .inner)
        exact (inside v bs).whole fun straight => straight.mono fun _ => .inner
  | list shape hl hw ht =>
    intro v bs
    refine matchList_binds shape (fun p hp => ?_) (fun w hw' p hp => ?_) (fun p hp => ?_) ha v bs
    · exact hl p hp fun q hq => ha q (hq.mono (fun _ => .leading hp) fun _ => .leading hp)
    · exact hw w hw' p hp fun q hq =>
        ha q (hq.mono (fun _ => .element hw' hp) fun _ => .element hw' hp)
    · exact ht p hp fun q hq => ha q (hq.mono (fun _ => .trailing hp) fun _ => .trailing hp)
  | hash shape ih =>
    intro v bs
    refine matchHash_binds shape (fun entry he => ?_) ha v bs
    exact ih entry he fun q hq => ha q (hq.mono (fun _ => .entry he) fun _ => .entry he)

end Persistent

end PatternDispatch
