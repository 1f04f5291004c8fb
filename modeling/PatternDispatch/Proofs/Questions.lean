import PatternDispatch.Proofs.PersistentDispatch

/-! What a dispatch may ask. A pattern opens the value it is matched against and the parts found in
it, resolves the operands it mentions, and tests; it never evaluates anything else and never stores
anything. -/
namespace PatternDispatch

namespace Pattern

/-- Operands of the pins and constants of a pattern. -/
inductive Mentions (r : ValueRef) : Pattern → Prop where
  | pin : Mentions r (.pin r)
  | branch {p : Pattern} {branches : List Pattern} (h : p ∈ branches) (inside : Mentions r p) :
    Mentions r (.either branches)
  | capture {p : Pattern} {t : BindTarget} (inside : Mentions r p) : Mentions r (.capture p t)
  | constant {inner : Option Pattern} : Mentions r (.constant r inner)
  | inner {q : ValueRef} {p : Pattern} (inside : Mentions r p) : Mentions r (.constant q (some p))
  | leading {shape : ListPattern} {p : Pattern} (h : p ∈ shape.leading) (inside : Mentions r p) :
    Mentions r (.list shape)
  | element {shape : ListPattern} {w : FindWindow} {p : Pattern} (hw : shape.find = some w)
    (h : p ∈ w.elements) (inside : Mentions r p) : Mentions r (.list shape)
  | trailing {shape : ListPattern} {p : Pattern} (h : p ∈ shape.trailing)
    (inside : Mentions r p) : Mentions r (.list shape)
  | entry {shape : HashPattern} {n : Name} {p : Pattern} (h : (n, p) ∈ shape.entries)
    (inside : Mentions r p) : Mentions r (.hash shape)

end Pattern

namespace Contract

/-- Only subjects are opened, and what is found in them is a subject again. -/
def opening (S : Value → Prop) : Contract where
  asks
    | .sequence v => S v
    | .mapping _ v => S v
    | _ => True
  answers
    | .sequence _, answer => ∀ items, answer = .supported items → ∀ v ∈ items, S v
    | .mapping _ _, answer => ∀ m, answer = .supported m → ∀ entry ∈ m.pairs, S entry.2
    | _, _ => True

/-- Besides, no operands are resolved but those in `refs`, and nothing is evaluated or stored. -/
def matching (S : Value → Prop) (refs : ValueRef → Prop) : Contract where
  asks q := (opening S).asks q ∧
    match q with
    | .visible n => refs (.localVar n)
    | .external r => refs (.external r)
    | .evalWith _ x => refs (.expr x)
    | .caseEq _ _ | .sequence _ | .mapping _ _ | .fresh | .report _ => True
    | .eval _ | .declare _ | .store _ _ | .render _ => False
  answers := (opening S).answers

/-- Where everything is a subject, no answer can break the contract. -/
theorem any_answer {refs : ValueRef → Prop} {q : Question} (a : q.Answer) :
    (matching (fun _ => True) refs).answers q a := by
  cases q <;> first | trivial | exact fun _ _ _ _ => trivial

end Contract

namespace Dialogue

variable {c : Contract}

theorem Keeps.weaken {α : Type} {c' : Contract} {Q : α → Prop} {d : Dialogue α} (h : d.Keeps c Q)
    (asks : ∀ q, c.asks q → c'.asks q) (answers : ∀ q a, c'.answers q a → c.answers q a) :
    d.Keeps c' Q := by
  induction d with
  | done a => exact h
  | fail error => trivial
  | ask q next ih => exact ⟨asks q h.1, fun a ha => ih a (h.2 a (answers q a ha))⟩

theorem Keeps.opening {α : Type} {Q : α → Prop} {d : Dialogue α} (h : d.Keeps .plain Q)
    {S : Value → Prop} : d.Keeps (.opening S) Q := by
  refine h.weaken (fun q plain => ?_) fun _ _ _ => trivial
  cases q with
  | sequence v => cases plain
  | mapping p v => cases plain
  | _ => trivial

/-- Two parts one after the other. -/
theorem Keeps.both {d : Dialogue (Option Bound)} {k : Bound → Dialogue (Option Bound)}
    (hd : d.Keeps c fun _ => True) (hk : ∀ bs, (k bs).Keeps c fun _ => True) :
    (d >>= fun
      | some bs => k bs
      | none => pure none).Keeps c fun _ => True := by
  refine hd.bind fun found _ => ?_
  cases found with
  | some bs => exact hk bs
  | none => trivial

end Dialogue

namespace Persistent

open Dialogue

variable {names : Interner} {S : Value → Prop} {refs : ValueRef → Prop}

theorem resolve_keeps {r : ValueRef} (mentioned : refs r) (bs : Bound) :
    (resolve names bs r).Keeps (.matching S refs) fun _ => True := by
  cases r with
  | localVar n =>
    simp only [resolve]
    cases bs.last? (.localVar n) with
    | some v => trivial
    | none =>
      refine ⟨⟨trivial, mentioned⟩, fun found _ => ?_⟩
      cases found <;> trivial
  | external r =>
    simp only [resolve]
    cases bs.last? (.external r) with
    | some v => trivial
    | none => exact ⟨⟨trivial, mentioned⟩, fun _ _ => trivial⟩
  | expr x => exact ⟨⟨trivial, mentioned⟩, fun _ _ => trivial⟩
  | inline v => trivial

theorem bindSplat_keeps (s : Splat) (items : List Value) (bs : Bound) :
    (bindSplat s items bs).Keeps (.matching S refs) fun _ => True := by
  cases s with
  | anonymous => trivial
  | named t => exact ⟨⟨trivial, trivial⟩, fun _ _ => trivial⟩

theorem caseEq_keeps {Q : Bool → Prop} (p v : Value) (h : ∀ b, Q b) :
    (put (.caseEq p v)).Keeps (.matching S refs) Q :=
  ⟨⟨trivial, trivial⟩, fun b _ => h b⟩

theorem itemsFor?_keeps (shape : ListPattern) {v : Value} (hv : S v) :
    (itemsFor? shape v).Keeps (.matching S refs) fun items? =>
      ∀ items ∈ items?, ∀ u ∈ items, S u := by
  refine Keeps.bind (keeps_put ⟨hv, trivial⟩) fun answer inside => ?_
  cases answer with
  | supported items =>
    change ∀ items' ∈ (if items.length < shape.minLen then none else some items), ∀ u ∈ items', S u
    intro items' h
    split at h
    · cases h
    · cases h
      exact inside items rfl
  | unsupported =>
    intro items h
    cases h
  | wrongShape error => trivial

theorem windows_keeps (before after : Splat) (width : Nat)
    {attempt : List Value → Bound → Dialogue (Option Bound)} {items : List Value}
    (parts : ∀ u ∈ items, S u)
    (hm : ∀ window, (∀ u ∈ window, S u) → ∀ bs,
      (attempt window bs).Keeps (.matching S refs) fun _ => True)
    (bs : Bound) (remaining start : Nat) :
    (windows before after width attempt items bs remaining start).Keeps (.matching S refs)
      fun _ => True := by
  induction remaining generalizing start with
  | zero => exact ⟨⟨trivial, trivial⟩, fun _ _ => trivial⟩
  | succ remaining ih =>
    have window : ∀ u ∈ (items.drop start).take width, S u := fun u hu =>
      parts u (List.mem_of_mem_drop (List.mem_of_mem_take hu))
    refine (bindSplat_keeps before _ bs).bind fun opened _ => ?_
    refine (hm _ window opened).bind fun found _ => ?_
    cases found with
    | some bs' =>
      refine ⟨⟨trivial, trivial⟩, fun _ _ => ?_⟩
      exact (bindSplat_keeps after _ bs').bind fun _ _ => trivial
    | none => exact ih (start + 1)

theorem matchRest_keeps (shape : HashPattern) (pairs : Pairs) (bs : Bound) :
    (matchRest shape pairs bs).Keeps (.matching S refs) fun _ => True := by
  unfold matchRest
  cases shape.rest with
  | absent => trivial
  | ignored => trivial
  | closed => trivial
  | named t => exact ⟨⟨trivial, trivial⟩, fun _ _ => trivial⟩

/-- A pattern keeps the contract on every subject if its operands are allowed. -/
def NodeKeeps (names : Interner) (S : Value → Prop) (refs : ValueRef → Prop) (p : Pattern) : Prop :=
  ∀ v bs, S v → (matchNode names p v bs).Keeps (.matching S refs) fun _ => True

theorem matchAny_keeps {ps : List Pattern} (hps : ∀ p ∈ ps, NodeKeeps names S refs p) {v : Value}
    (hv : S v) (bs : Bound) :
    (matchAny names ps v bs).Keeps (.matching S refs) fun _ => True := by
  induction ps with
  | nil => trivial
  | cons p ps ih =>
    have first := hps p List.mem_cons_self v bs hv
    have later := ih fun q hq => hps q (List.mem_cons_of_mem p hq)
    simp only [matchAny]
    refine first.bind fun found _ => ?_
    cases found with
    | some bs' => trivial
    | none => exact later

theorem matchEach_keeps {ps : List Pattern} (hps : ∀ p ∈ ps, NodeKeeps names S refs p)
    {vs : List Value} (hvs : ∀ v ∈ vs, S v) (bs : Bound) :
    (matchEach names ps vs bs).Keeps (.matching S refs) fun _ => True := by
  induction ps generalizing vs bs with
  | nil => trivial
  | cons p ps ih =>
    cases vs with
    | nil => trivial
    | cons v vs =>
      have first := hps p List.mem_cons_self v bs (hvs v List.mem_cons_self)
      simp only [matchEach]
      exact first.both fun bs' => ih (fun q hq => hps q (List.mem_cons_of_mem p hq))
        (fun u hu => hvs u (List.mem_cons_of_mem v hu)) bs'

theorem mem_of_getSymbol? {pairs : Pairs} {n : Name} {v : Value} (h : pairs.getSymbol? n = some v) :
    ∃ entry ∈ pairs, entry.2 = v := by
  obtain ⟨entry, found, hv⟩ := Option.map_eq_some_iff.1 h
  exact ⟨entry, List.mem_of_find?_eq_some found, hv⟩

theorem matchEntries_keeps {entries : List (Name × Pattern)}
    (hes : ∀ entry ∈ entries, NodeKeeps names S refs entry.2) {pairs : Pairs}
    (parts : ∀ entry ∈ pairs, S entry.2) (bs : Bound) :
    (matchEntries names entries pairs bs).Keeps (.matching S refs) fun _ => True := by
  induction entries generalizing bs with
  | nil => trivial
  | cons entry entries ih =>
    obtain ⟨n, p⟩ := entry
    simp only [matchEntries]
    cases found : pairs.getSymbol? n with
    | none => trivial
    | some v =>
      obtain ⟨part, hp, rfl⟩ := mem_of_getSymbol? found
      have first := hes (n, p) List.mem_cons_self part.2 bs (parts part hp)
      exact first.both fun bs' => ih (fun other ho => hes other (List.mem_cons_of_mem _ ho)) bs'

theorem matchList_keeps (shape : ListPattern) (hl : ∀ p ∈ shape.leading, NodeKeeps names S refs p)
    (hw : ∀ w ∈ shape.find, ∀ p ∈ w.elements, NodeKeeps names S refs p)
    (ht : ∀ p ∈ shape.trailing, NodeKeeps names S refs p) {v : Value} (hv : S v) (bs : Bound) :
    (matchList names shape v bs).Keeps (.matching S refs) fun _ => True := by
  obtain ⟨leading, find, rest, trailing, openEnd⟩ := shape
  dsimp only at hl hw ht
  have items : (itemsFor? ⟨leading, find, rest, trailing, openEnd⟩ v).Keeps (.matching S refs)
      fun items? => ∀ items ∈ items?, ∀ u ∈ items, S u := itemsFor?_keeps _ hv
  rcases find with _ | ⟨before, elements, after⟩
  · cases rest with
    | none =>
      simp only [matchList]
      refine items.bind fun items? parts => ?_
      cases items? with
      | none => trivial
      | some items =>
        dsimp only
        split
        · exact matchEach_keeps hl (fun u hu => parts items rfl u (List.mem_of_mem_take hu)) bs
        · trivial
    | some rest =>
      simp only [matchList]
      refine items.bind fun items? parts => ?_
      cases items? with
      | none => trivial
      | some items =>
        have front := matchEach_keeps hl
          (fun u hu => parts items rfl u (List.mem_of_mem_take (i := leading.length) hu)) bs
        refine front.both fun bs' => (bindSplat_keeps rest _ bs').bind fun bs'' _ => ?_
        exact matchEach_keeps ht (fun u hu => parts items rfl u (List.mem_of_mem_drop hu)) bs''
  · simp only [matchList]
    refine items.bind fun items? parts => ?_
    cases items? with
    | none => trivial
    | some items =>
      exact windows_keeps before after elements.length (parts items rfl)
        (fun window inside bs => matchEach_keeps (hw _ rfl) inside bs) bs _ 0

theorem matchHash_keeps (shape : HashPattern)
    (hes : ∀ entry ∈ shape.entries, NodeKeeps names S refs entry.2) {v : Value} (hv : S v)
    (bs : Bound) :
    (matchHash names shape v bs).Keeps (.matching S refs) fun _ => True := by
  obtain ⟨entries, rest⟩ := shape
  simp only [matchHash]
  refine Keeps.bind (keeps_put ⟨hv, trivial⟩) fun answer inside => ?_
  cases answer with
  | supported m =>
    exact (matchEntries_keeps hes (inside m rfl) bs).both fun bs' => matchRest_keeps _ m.pairs bs'
  | unsupported => trivial
  | wrongShape error => trivial

theorem matchNode_keeps (p : Pattern) (mentioned : ∀ r, p.Mentions r → refs r) :
    NodeKeeps names S refs p := by
  induction p using Pattern.induction with
  | literal l =>
    intro v bs hv
    exact (caseEq_keeps l v fun _ => trivial).bind fun _ (_ : True) => trivial
  | binding t =>
    intro v bs hv
    trivial
  | wildcard =>
    intro v bs hv
    trivial
  | discard n =>
    intro v bs hv
    trivial
  | pin r =>
    intro v bs hv
    refine (resolve_keeps (mentioned r .pin) bs).bind fun operand _ => ?_
    exact (caseEq_keeps operand v fun _ => trivial).bind fun _ (_ : True) => trivial
  | either branches ih =>
    have each := fun p hp => ih p hp fun r hr => mentioned r (.branch hp hr)
    intro v bs hv
    exact matchAny_keeps each hv bs
  | capture inner t ih =>
    have inside := ih fun r hr => mentioned r (.capture hr)
    intro v bs hv
    exact (inside v bs hv).both fun bs' => keeps_done trivial
  | constant r inner ih =>
    intro v bs hv
    refine (resolve_keeps (mentioned r .constant) bs).bind fun operand _ => ?_
    refine (caseEq_keeps operand v fun _ => trivial).bind fun found (_ : True) => ?_
    cases found with
    | false => trivial
    | true =>
      cases inner with
      | none => trivial
      | some p => exact ih p rfl (fun r hr => mentioned r (.inner hr)) v bs hv
  | list shape hl hw ht =>
    have leading := fun p hp => hl p hp fun r hr => mentioned r (.leading hp hr)
    have elements := fun w hw' p hp => hw w hw' p hp fun r hr => mentioned r (.element hw' hp hr)
    have trailing := fun p hp => ht p hp fun r hr => mentioned r (.trailing hp hr)
    intro v bs hv
    exact matchList_keeps shape leading elements trailing hv bs
  | hash shape ih =>
    have each := fun (entry : Name × Pattern) hp =>
      ih entry hp fun r hr => mentioned r (.entry hp hr)
    intro v bs hv
    exact matchHash_keeps shape each hv bs

/-- Whatever the operands are, only subjects are opened. -/
theorem matchNode_opens (p : Pattern) {v : Value} (hv : S v) (bs : Bound) :
    (matchNode names p v bs).Keeps (.opening S) fun _ => True := by
  have tried : (matchNode names p v bs).Keeps (.matching S fun _ => True) fun _ => True :=
    matchNode_keeps p (fun _ _ => trivial) v bs hv
  exact tried.weaken (fun _ asked => asked.1) fun _ _ answered => answered

/-- Nor is anything else, whatever the arms are. -/
theorem tryArms_keeps {v : Value} (hv : S v) (elseBody : Option ExprId) (arms : List CaseArm) :
    (tryArms names v elseBody arms).Keeps (.opening S) fun _ => True := by
  induction arms with
  | nil => exact (otherwise_plain v elseBody).opening
  | cons arm arms ih =>
    refine (matchNode_opens arm.pattern hv []).bind fun found _ => ?_
    cases found with
    | none => exact ih
    | some bs =>
      refine (guardPasses_plain arm.guard bs).opening.bind fun passed _ => ?_
      cases passed with
      | false => exact ih
      | true => exact (commit_plain bs).opening.bind fun _ _ => ⟨trivial, fun _ _ => trivial⟩

/-- All that comes after the scrutinee. -/
theorem arms_keep {v : Value} (hv : S v) (elseBody : Option ExprId) (arms : List CaseArm) :
    (declareAll arms >>= fun _ => tryArms names v elseBody arms).Keeps (.opening S)
      fun _ => True :=
  (declareAll_plain arms).opening.bind fun _ _ => tryArms_keeps hv elseBody arms

end Persistent

end PatternDispatch
