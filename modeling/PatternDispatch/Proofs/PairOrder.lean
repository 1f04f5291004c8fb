import PatternDispatch.Proofs.ClosedObjects
import PatternDispatch.Proofs.NamedRests
import PatternDispatch.Proofs.OwnAnswers

/-! The order of the pairs of a hash. A pattern looks up the pairs that its entries name, and no key
is stored twice; so it does not see in which order they were inserted, unless it binds the others.
If it takes no notice of the others at all, it does not see whether there are any. -/
namespace PatternDispatch

open Dialogue

namespace Call

/-- Whether a hash was asked to open itself. -/
def opensHash : Call → Bool
  | .deconstructKeys v _ _ => v.ownMapping?.isSome
  | _ => false

end Call

/-- A record without such calls does not see them. -/
theorem Host.OpensHashes.recording {σ : Type} {h : Host σ} (opens : h.OpensHashes) :
    (h.recording fun call => !call.opensHash).OpensHashes := by
  intro v m own requested w
  have inside := opens v m own requested w.world
  simp only [Host.recording, Recorded.step, inside, Recorded.note, Call.opensHash, own]
  rfl

namespace Pairs

variable {ps qs : Pairs} {keys : List Name}

/-- Pairs under other keys, wherever they are, do not change what is found under a key. -/
theorem getSymbol?_of_perm (extra : Pairs) (hp : ps.symbolKeys.Nodup) (hq : qs.symbolKeys.Nodup)
    (same : qs.Perm (ps ++ extra)) (other : ∀ entry ∈ extra, ∀ n ∈ keys, entry.1 ≠ .symbol n) :
    ∀ n ∈ keys, ps.getSymbol? n = qs.getSymbol? n := by
  intro n named
  refine getSymbol?_congr hp hq fun v => ?_
  rw [same.mem_iff, List.mem_append]
  exact ⟨.inl, fun inside => inside.resolve_right fun there => other _ there n named rfl⟩

end Pairs

namespace Persistent

variable {names : Interner} {p : HashPattern} {ps qs : Pairs}

/-- The bindings of the entries and the identity of a new hash, if all entries match. -/
def matchForRest (names : Interner) (p : HashPattern) (pairs : Pairs) (bs : Bound) :
    Dialogue (Option (Bound × Identity)) := do
  match ← matchEntries names p.entries pairs bs with
  | some bs' => return some (bs', ← put .fresh)
  | none => return none

/-- The bindings with the rest. -/
def bindRest (p : HashPattern) (t : BindTarget) (pairs : Pairs) (found : Bound × Identity) :
    Bound :=
  found.1 ++ [(t, .hash found.2 (Pairs.ofList (Engine.otherPairs p.keys pairs)))]

theorem matchPairs_named {t : BindTarget} (rest : p.rest = .named t) (pairs : Pairs) (bs : Bound) :
    matchPairs names p pairs bs =
      matchForRest names p pairs bs >>= fun found => .done (found.map (bindRest p t pairs)) := by
  rw [matchPairs, matchForRest, bind_bind]
  refine congrArg (_ >>= ·) (funext fun found => ?_)
  cases found with
  | none => rfl
  | some bs' =>
    simp only [matchRest, rest]
    rfl

/-- Where the others are left alone, only what the entries name counts. -/
theorem matchPairs_of_unbound (values : ∀ n ∈ p.keys, ps.getSymbol? n = qs.getSymbol? n)
    (rest : p.rest = .absent ∨ p.rest = .ignored) (bs : Bound) :
    matchPairs names p ps bs = matchPairs names p qs bs := by
  rw [matchPairs, matchPairs, matchEntries_congr values bs]
  refine congrArg (_ >>= ·) (funext fun found => ?_)
  cases found with
  | none => rfl
  | some bs' =>
    rcases rest with absent | ignored
    · simp only [matchRest, absent]
    · simp only [matchRest, ignored]

theorem matchForRest_congr (values : ∀ n ∈ p.keys, ps.getSymbol? n = qs.getSymbol? n) (bs : Bound) :
    matchForRest names p ps bs = matchForRest names p qs bs := by
  rw [matchForRest, matchForRest, matchEntries_congr values bs]

end Persistent

theorem Bindings.ofList_concat (bs : Bound) (t : BindTarget) (v : Value) :
    Bindings.ofList (bs ++ [(t, v)]) = (Bindings.ofList bs).push t v := by
  rw [ofList, List.reverse_append]
  rfl

/-- Outcomes on two hashes that are the same but for a named rest, which holds the other pairs of
the one hash or of the other. -/
inductive MatchOutcome.AlikeButRest (p : HashPattern) (ps qs : Pairs) :
    MatchOutcome → MatchOutcome → Prop where
  | same (outcome : MatchOutcome) (unbound : ∀ b, outcome = .matched b → ∀ t, p.rest ≠ .named t) :
    AlikeButRest p ps qs outcome outcome
  | rest {t : BindTarget} (named : p.rest = .named t) (b : Bindings) (id : Identity) :
    AlikeButRest p ps qs (.matched (b.push t (.hash id (Engine.otherPairs p.keys ps))))
      (.matched (b.push t (.hash id (Engine.otherPairs p.keys qs))))

section

open Persistent

variable {τ : Type} {p : HashPattern} {ps qs : Pairs}

/-- Whoever answers, pairs in another order lead to the same questions and to outcomes that are
alike. -/
theorem run_matchPairs_alike (names : Interner) (h : Answerer τ) (t : τ) (hp : ps.Distinct) (hq : qs.Distinct)
    (values : ∀ n ∈ p.keys, ps.getSymbol? n = qs.getSymbol? n) (size : ps.length = qs.length) :
    let r := run h (matchPairs names p ps []) t
    let r' := run h (matchPairs names p qs []) t
    MatchOutcome.AlikeButRest p ps qs (.ofResult r.1) (.ofResult r'.1) ∧ r.2 = r'.2 ∧
      questions h (matchPairs names p ps []) t = questions h (matchPairs names p qs []) t := by
  dsimp only
  cases rest : p.rest with
  | named target =>
    have kept {pairs : Pairs} (distinct : pairs.Distinct) :
        Pairs.ofList (Engine.otherPairs p.keys pairs) = Engine.otherPairs p.keys pairs :=
      Pairs.ofList_of_distinct (distinct.otherPairs p.keys)
    rw [matchPairs_named rest, matchPairs_named rest, questions_map, questions_map,
      matchForRest_congr values, run_bind, run_bind, HostM.bind_apply, HostM.bind_apply]
    refine ⟨?_, ?_, rfl⟩
    · rcases run h (matchForRest names p qs []) t with ⟨error | _ | ⟨bs, id⟩, t'⟩
      · exact .same _ nofun
      · exact .same _ nofun
      · simp only [run_done, Option.map_some, bindRest, kept hp, kept hq]
        change MatchOutcome.AlikeButRest p ps qs (.matched (.ofList (bs ++ [(target, _)])))
          (.matched (.ofList (bs ++ [(target, _)])))
        rw [Bindings.ofList_concat, Bindings.ofList_concat]
        exact .rest rest (.ofList bs) id
    · rcases run h (matchForRest names p qs []) t with ⟨error | found, t'⟩ <;> rfl
  | _ =>
    have unbound : ∀ t, p.rest ≠ .named t := by simp [rest]
    have bounded : p.requestedKeys ≠ none := by simp [HashPattern.requestedKeys, rest]
    rw [matchPairs_congr values size fun every => absurd every bounded]
    exact ⟨.same _ fun _ _ => unbound, rfl, rfl⟩

end

namespace Engine

variable {σ : Type} {e : Engine σ}

/-- A record does not change the questions. -/
theorem questions_forget {α : Type} (keep : Call → Bool) (d : Dialogue α)
    (t : Standing (Recorded σ)) :
    questions (e.recording keep).cached d t = questions e.cached d t.forget := by
  refine (run_side_by_side (P := fun _ => True) (R := fun t t' => t' = t.forget)
    (fun q t t' _ same => ?_) (fun _ _ => trivial) rfl).2.2
  rw [same, e.cached_forget keep]
  exact ⟨rfl, rfl⟩

/-- Matching a hash, where hashes are never asked, is matching its pairs. -/
theorem run_own {p : HashPattern} {v : Value} {m : Mapping} (own : v.ownMapping? = some m)
    (t : Standing σ) :
    run e.ownHashes (Persistent.matchNode e.names (.hash p) v []) t =
        run e.ownHashes (Persistent.matchPairs e.names p m.pairs []) t ∧
      questions e.ownHashes (Persistent.matchNode e.names (.hash p) v []) t =
        .mapping p v :: questions e.ownHashes (Persistent.matchPairs e.names p m.pairs []) t := by
  have answer := ownHashes_of_own (e := e) p own t
  have first : Persistent.matchNode e.names (.hash p) v [] =
      Persistent.matchHash e.names p v [] := by
    simp only [Persistent.matchNode]
  rw [first]
  refine ⟨Persistent.run_matchHash answer [], ?_⟩
  rw [Persistent.matchHash_eq_ask]
  exact questions_ask_ok answer

/-- The questions of a new match. -/
def askedBy (e : Engine σ) (p : Pattern) (v : Value) (s : Session σ) : List Question :=
  questions e.silent.cached (Persistent.matchNode e.names p v []) ⟨s, .empty⟩

/-- A new match, with a record of all calls but those for hashes to open themselves. -/
def matchNoted (e : Engine σ) (p : Pattern) (v : Value) (s : Session σ) :
    MatchOutcome × Session (Recorded σ) :=
  (e.recording fun call => !call.opensHash).silent.matchValue p v (s.withRecord [])

theorem matchNoted_forget (p : Pattern) (v : Value) (s : Session σ) :
    e.silent.matchValue p v s = ((e.matchNoted p v s).1, (e.matchNoted p v s).2.forget) := by
  have forgotten := e.silent.run_forget (fun call => !call.opensHash)
    (Persistent.matchNode e.names p v []) ⟨s.withRecord [], .empty⟩
  change run e.silent.cached _ ⟨s, .empty⟩ = _ at forgotten
  rw [matchNoted, matchValue_eq_run, matchValue_eq_run]
  change (MatchOutcome.ofResult (run e.silent.cached (Persistent.matchNode e.names p v []) _).1,
    (run e.silent.cached (Persistent.matchNode e.names p v []) _).2.session) = _
  rw [forgotten]
  rfl

/-- A new match of a hash comes to what its pairs come to where hashes are never asked. -/
theorem matchNoted_hash (opens : e.host.OpensHashes) (p : HashPattern) (i : Identity)
    (pairs : Pairs) (s : Session σ)
    (apart : e.silent.TellsApart (e.askedBy (.hash p) (.hash i pairs) s)) :
    let h := (e.recording fun call => !call.opensHash).silent.ownHashes
    let d := Persistent.matchPairs e.names p pairs []
    let t : Standing (Recorded σ) := ⟨s.withRecord [], .empty⟩
    e.matchNoted (.hash p) (.hash i pairs) s =
        (.ofResult (run h d t).1, (run h d t).2.session) ∧
      e.askedBy (.hash p) (.hash i pairs) s = .mapping p (.hash i pairs) :: questions h d t := by
  intro h d t
  let noted := e.recording fun call => !call.opensHash
  have asked : e.askedBy (.hash p) (.hash i pairs) s =
      questions noted.silent.cached (Persistent.matchNode e.names (.hash p) (.hash i pairs) []) t :=
    (e.silent.questions_forget (fun call => !call.opensHash) _ t).symm
  obtain ⟨result, session, same⟩ := run_besideOwn (e := noted) opens.recording
    (Persistent.matchNode e.names (.hash p) (.hash i pairs) []) (s.withRecord []) (asked ▸ apart)
  obtain ⟨runs, first⟩ := run_own (e := noted.silent) (p := p) (v := .hash i pairs) rfl t
  constructor
  · refine (noted.silent.matchValue_eq_run (.hash p) (.hash i pairs) (s.withRecord [])).trans ?_
    exact Prod.ext (congrArg MatchOutcome.ofResult (result.trans (congrArg Prod.fst runs)))
      (session.trans (congrArg (fun r => r.2.session) runs))
  · rw [asked, same]
    exact first

/-- A match of a hash: its record is that of the match itself, and `later` is all that is asked once
the hash has opened itself. -/
structure Opens (e : Engine σ) (p : HashPattern) (v : Value) (s : Session σ)
    (later : List Question) : Prop where
  matched : e.silent.matchValue (.hash p) v s =
    ((e.matchNoted (.hash p) v s).1, (e.matchNoted (.hash p) v s).2.forget)
  asked : e.askedBy (.hash p) v s = .mapping p v :: later

/-- How the matches of two hashes with the pairs `ps` and `qs` compare. -/
structure OrderUnobservable (e : Engine σ) (p : HashPattern) (i j : Identity) (ps qs : Pairs)
    (s : Session σ) (later later' : List Question) : Prop where
  first : e.Opens p (.hash i ps) s later
  second : e.Opens p (.hash j qs) s later'
  /-- In another order, the pairs lead to the same bindings, but for a named rest. -/
  outcomes (same : ps.Perm qs) : MatchOutcome.AlikeButRest p ps qs
    (e.matchNoted (.hash p) (.hash i ps) s).1 (e.matchNoted (.hash p) (.hash j qs) s).1
  calls (same : ps.Perm qs) :
    (e.matchNoted (.hash p) (.hash i ps) s).2 = (e.matchNoted (.hash p) (.hash j qs) s).2
  questions (same : ps.Perm qs) : later = later'
  others (same : ps.Perm qs) : (otherPairs p.keys ps).Perm (otherPairs p.keys qs)
  /-- Of pairs under other keys no notice is taken, unless the pattern does so. -/
  widened (unbound : p.rest = .absent ∨ p.rest = .ignored) (extra : Pairs)
    (more : qs.Perm (ps ++ extra)) (other : ∀ entry ∈ extra, ∀ n ∈ p.keys, entry.1 ≠ .symbol n) :
    e.matchNoted (.hash p) (.hash i ps) s = e.matchNoted (.hash p) (.hash j qs) s ∧ later = later'

/-- As long as a value is known by its identity, two hashes with the same pairs in different orders
are matched alike: through the same questions, the same calls and the same bindings, but for a named
rest, which holds the same pairs in the order of either hash. If a pattern takes no notice of pairs
under other keys, there may be more of them in the one hash, and the matches are the same. -/
theorem pair_order_unobservable (e : Engine σ) (methods : Methods σ)
    (default : ∀ v requested, e.host.deconstructKeys v requested =
      ExceptT.lift (v.deconstructKeys methods requested))
    (p : HashPattern) (i j : Identity) (inserted inserted' : List (Value × Value)) (s : Session σ)
    (apart : e.silent.TellsApart (e.askedBy (.hash p) (.hash i (Pairs.ofList inserted)) s))
    (apart' : e.silent.TellsApart (e.askedBy (.hash p) (.hash j (Pairs.ofList inserted')) s)) :
    ∃ later later',
      e.OrderUnobservable p i j (Pairs.ofList inserted) (Pairs.ofList inserted') s later later' := by
  have opens : e.host.OpensHashes := Host.opensHashes_of_default default
  have symbols := Pairs.symbolKeys_ofList_nodup inserted
  have symbols' := Pairs.symbolKeys_ofList_nodup inserted'
  have distinct := Pairs.ofList_distinct inserted
  have distinct' := Pairs.ofList_distinct inserted'
  generalize Pairs.ofList inserted = ps at *
  generalize Pairs.ofList inserted' = qs at *
  obtain ⟨matched, asked⟩ := matchNoted_hash opens p i ps s apart
  obtain ⟨matched', asked'⟩ := matchNoted_hash opens p j qs s apart'
  have alike (same : ps.Perm qs) := by
    have values : ∀ n ∈ p.keys, ps.getSymbol? n = qs.getSymbol? n :=
      Pairs.getSymbol?_of_perm [] symbols symbols' (by simpa using same.symm) (by simp)
    exact run_matchPairs_alike e.names (e.recording fun call => !call.opensHash).silent.ownHashes
      ⟨s.withRecord [], .empty⟩ distinct distinct' values same.length_eq
  refine ⟨_, _, ⟨matchNoted_forget _ _ s, asked⟩, ⟨matchNoted_forget _ _ s, asked'⟩, fun same => ?_,
    fun same => ?_, fun same => (alike same).2.2, fun same => same.filter _, ?_⟩
  · rw [matched, matched']
    exact (alike same).1
  · rw [matched, matched']
    exact congrArg Standing.session (alike same).2.1
  · intro unbound extra more other
    have values : ∀ n ∈ p.keys, ps.getSymbol? n = qs.getSymbol? n :=
      Pairs.getSymbol?_of_perm extra symbols symbols' more other
    have one : Persistent.matchPairs e.names p ps [] = Persistent.matchPairs e.names p qs [] :=
      Persistent.matchPairs_of_unbound values unbound []
    rw [matched, matched', one]
    exact ⟨rfl, rfl⟩

end Engine

/-- A literal, a binding and any rest. -/
def HashPattern.flat (rest : HashRest) : HashPattern :=
  ⟨[(⟨1⟩, .literal .nil), (⟨2⟩, .binding (.localVar ⟨5⟩))], rest⟩

/-- Parts that open nothing leave the hash the only value that is opened. -/
theorem flat_tellsApart {σ : Type} (e : Engine σ) (rest : HashRest) (v : Value) (s : Session σ) :
    e.silent.TellsApart (e.askedBy (.hash (.flat rest)) v s) := by
  have other : ∀ q : Question, q.opens = false → ∀ p u, q = .mapping p u → u = v := by
    rintro q plain p u rfl
    cases plain
  have keeps : (Persistent.matchNode e.names (.hash (.flat rest)) v []).Keeps
      (.only fun q => ∀ p u, q = .mapping p u → u = v) fun _ => True := by
    have first : Persistent.matchNode e.names (.hash (.flat rest)) v [] =
        Persistent.matchHash e.names (.flat rest) v [] := by
      simp only [Persistent.matchNode]
    rw [first, Persistent.matchHash_eq_ask]
    refine ⟨fun p u same => by cases same; rfl, fun answer _ => ?_⟩
    cases answer with
    | supported m =>
      have entries : (Persistent.matchEntries e.names (HashPattern.flat rest).entries m.pairs
          []).Keeps (.only fun q => ∀ p u, q = .mapping p u → u = v) fun _ => True := by
        simp only [HashPattern.flat, Persistent.matchEntries, Persistent.matchNode]
        cases m.pairs.getSymbol? ⟨1⟩ with
        | none => trivial
        | some u =>
          refine ⟨other _ rfl, fun found _ => ?_⟩
          cases found with
          | false => trivial
          | true => cases m.pairs.getSymbol? ⟨2⟩ <;> trivial
      refine entries.both fun bs => ?_
      cases rest with
      | named t => exact ⟨other _ rfl, fun _ _ => trivial⟩
      | _ => trivial
    | unsupported => trivial
    | wrongShape error => trivial
  have only : ∀ p u, .mapping p u ∈ e.askedBy (.hash (.flat rest)) v s → u = v := by
    intro p u asked
    obtain ⟨x, there, same⟩ := List.mem_map.1 asked
    exact keeps.asks_of_mem there p u same
  intro p u q w asked asked' _
  rw [only p u asked, only q w asked']

/-- Two symbols and a text as the keys of a hash, in two orders, and with one more before them. -/
theorem pair_order_unobservable_sample :
    let e : Engine Nat := ⟨StandIn.sampleHost, .new, .standard⟩
    let first : Pairs := [(.symbol ⟨1⟩, .nil), (.str "a", .nil)]
    let last : Pairs := [(.symbol ⟨2⟩, .bool true)]
    let more : Pairs := [(.symbol ⟨9⟩, .nil)]
    let named : HashRest := .named (.localVar ⟨6⟩)
    let found := fun rest id pairs =>
      e.matchNoted (.hash (.flat rest)) (.hash ⟨id⟩ pairs) ⟨.empty, 7⟩
    MatchOutcome.AlikeButRest (.flat named) (first ++ last) (last ++ first)
      (found named 3 (first ++ last)).1 (found named 4 (last ++ first)).1 ∧
    (found named 3 (first ++ last)).2 = (found named 4 (last ++ first)).2 ∧
    found .ignored 3 (first ++ last) = found .ignored 4 (more ++ last ++ first) := by
  intro e first last more named found
  have stored : Pairs.ofList (first ++ last) = first ++ last :=
    Pairs.ofList_of_distinct (by decide +kernel)
  have shuffled : Pairs.ofList (last ++ first) = last ++ first :=
    Pairs.ofList_of_distinct (by decide +kernel)
  have widened : Pairs.ofList (more ++ last ++ first) = more ++ last ++ first :=
    Pairs.ofList_of_distinct (by decide +kernel)
  obtain ⟨_, _, alike⟩ := e.pair_order_unobservable StandIn.sampleMethods
    (fun _ _ => rfl) (.flat named) ⟨3⟩ ⟨4⟩ (first ++ last) (last ++ first) ⟨.empty, 7⟩
    (flat_tellsApart _ _ _ _) (flat_tellsApart _ _ _ _)
  obtain ⟨_, _, wider⟩ := e.pair_order_unobservable StandIn.sampleMethods
    (fun _ _ => rfl) (.flat .ignored) ⟨3⟩ ⟨4⟩ (first ++ last) (more ++ last ++ first) ⟨.empty, 7⟩
    (flat_tellsApart _ _ _ _) (flat_tellsApart _ _ _ _)
  rw [stored, shuffled] at alike
  rw [stored, widened] at wider
  have order : (more ++ last ++ first).Perm (first ++ last ++ more) := by
    rw [List.append_assoc first]
    exact List.perm_append_comm.trans (List.perm_append_comm.append_left first)
  have unnamed : ∀ entry ∈ more, ∀ n ∈ (HashPattern.flat .ignored).keys, entry.1 ≠ .symbol n := by
    simp [more, HashPattern.flat, HashPattern.keys]
  obtain ⟨one, -⟩ := wider.widened (.inr rfl) more order unnamed
  exact ⟨alike.outcomes List.perm_append_comm, alike.calls List.perm_append_comm, one⟩

end PatternDispatch
