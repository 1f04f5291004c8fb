import Mathlib.Data.List.Forall2
import PatternDispatch.Text.Quoted

/-! Reading texts back. Of two things that are written at the start of a text, one may take a part of
what the other leaves, unless what is left cannot go on with the last word. Lists of things that are
told apart are told apart themselves when a closing character ends them that begins no item, with
separators and without. Quoted text is such a list of characters. -/
namespace PatternDispatch.Text

variable {α : Type} {p : Char → Bool} {R : α → α → Prop} {write : α → List Char}

/-- A rest of a text that does not begin with a character of a class. -/
def Stops (p : Char → Bool) (rest : List Char) : Prop := ∀ c ∈ rest.head?, p c = false

theorem Stops.nil : Stops p [] := fun _ none => by cases none

theorem Stops.cons {c : Char} (outside : p c = false) (cs : List Char) : Stops p (c :: cs) := by
  rintro _ ⟨⟩
  exact outside

/-- Two things that are told apart, but for what `R` relates, by what is written of them and what is
left after it, as long as what is left stops. -/
def ReadBack (p : Char → Bool) (R : α → α → Prop) (write : α → List Char) (a b : α) : Prop :=
  ∀ r r', Stops p r → Stops p r' → write a ++ r = write b ++ r' → R a b ∧ r = r'

/-- A text that begins neither with a character of the class nor with `close`. -/
def Opens (p : Char → Bool) (close : Char) (text : List Char) : Prop :=
  ∃ c cs, text = c :: cs ∧ p c = false ∧ c ≠ close

/-- A word ends where its class does. -/
theorem takeWhile_word {w r : List Char} (inside : ∀ c ∈ w, p c = true) (stops : Stops p r) :
    (w ++ r).takeWhile p = w := by
  have nothing : r.takeWhile p = [] := by
    cases r with
    | nil => rfl
    | cons c cs => rw [List.takeWhile_cons_of_neg (by rw [stops c rfl]; exact Bool.false_ne_true)]
  rw [List.takeWhile_append_of_pos inside, nothing, List.append_nil]

theorem word_unique {w w' r r' : List Char} (inside : ∀ c ∈ w, p c = true)
    (inside' : ∀ c ∈ w', p c = true) (stops : Stops p r) (stops' : Stops p r')
    (same : w ++ r = w' ++ r') : w = w' ∧ r = r' := by
  have words : w = w' := by
    rw [← takeWhile_word inside stops, same, takeWhile_word inside' stops']
  exact ⟨words, List.append_cancel_left (words ▸ same)⟩

section

variable {close : Char} {as bs : List α} {r r' : List Char}

/-- What stands behind an item of a closed list stops. -/
theorem stops_flatMap (closing : p close = false)
    (opens : ∀ a ∈ as, Opens p close (write a)) (r : List Char) :
    Stops p (as.flatMap write ++ close :: r) := by
  cases as with
  | nil => exact .cons closing r
  | cons a as =>
    obtain ⟨c, cs, text, outside, -⟩ := opens a List.mem_cons_self
    rw [List.flatMap_cons, text]
    exact .cons outside _

/-- A closed list that begins with an item does not end at once. -/
theorem Opens.ne_closed {text : List Char} (opens : Opens p close text) (rest : List Char) :
    close :: r ≠ text ++ rest := by
  obtain ⟨c, cs, rfl, -, other⟩ := opens
  exact fun same => other (List.cons.inj same).1.symm

/-- A list of items up to a closing character. The induction is on both lists: where one has ended
the closing character stands, and it begins no item of the other. -/
theorem flatMap_unique (closing : p close = false)
    (opensA : ∀ a ∈ as, Opens p close (write a)) (opensB : ∀ b ∈ bs, Opens p close (write b))
    (items : ∀ a ∈ as, ∀ b ∈ bs, ReadBack p R write a b)
    (same : as.flatMap write ++ close :: r = bs.flatMap write ++ close :: r') :
    List.Forall₂ R as bs ∧ r = r' := by
  induction as generalizing bs with
  | nil =>
    cases bs with
    | nil => exact ⟨.nil, (List.cons.inj same).2⟩
    | cons b bs =>
      rw [List.flatMap_cons, List.append_assoc] at same
      exact absurd same ((opensB b List.mem_cons_self).ne_closed _)
  | cons a as ih =>
    rw [List.flatMap_cons, List.append_assoc] at same
    cases bs with
    | nil => exact absurd same.symm ((opensA a List.mem_cons_self).ne_closed _)
    | cons b bs =>
      rw [List.flatMap_cons, List.append_assoc] at same
      have opensA' : ∀ a ∈ as, Opens p close (write a) := fun a ha =>
        opensA a (List.mem_cons_of_mem _ ha)
      have opensB' : ∀ b ∈ bs, Opens p close (write b) := fun b hb =>
        opensB b (List.mem_cons_of_mem _ hb)
      obtain ⟨first, rest⟩ := items a List.mem_cons_self b List.mem_cons_self _ _
        (stops_flatMap closing opensA' r) (stops_flatMap closing opensB' r') same
      obtain ⟨others, left⟩ := ih opensA' opensB'
        (fun a ha b hb => items a (List.mem_cons_of_mem _ ha) b (List.mem_cons_of_mem _ hb)) rest
      exact ⟨.cons first others, left⟩

end

theorem map_eq_of_forall₂ {α β : Type} {f : α → β} {as bs : List α}
    (each : List.Forall₂ (f · = f ·) as bs) : as.map f = bs.map f := by
  rw [← List.forall₂_eq_eq_eq, List.forall₂_map_left_iff, List.forall₂_map_right_iff]
  exact each

/-- The separator of items. -/
def comma : List Char := [',', ' ']

/-- After the first item a comma stands before each. -/
theorem intercalate_comma (w : List Char) (ws : List (List Char)) :
    comma.intercalate (w :: ws) = w ++ ws.flatMap (comma ++ ·) := by
  induction ws generalizing w with
  | nil => rw [List.intercalate_singleton, List.flatMap_nil, List.append_nil]
  | cons w' ws ih =>
    rw [List.intercalate_cons_cons, ih, List.flatMap_cons, List.append_assoc, List.append_assoc]

/-- A list of items with commas between them, up to a closing character. Where there is an item on
both sides, a comma before the first makes it a list without separators. -/
theorem separated_unique {close : Char} {as bs : List α} {r r' : List Char}
    (closing : p close = false) (separates : p ',' = false) (apart : ',' ≠ close)
    (opensA : ∀ a ∈ as, Opens (fun _ => false) close (write a))
    (opensB : ∀ b ∈ bs, Opens (fun _ => false) close (write b))
    (items : ∀ a ∈ as, ∀ b ∈ bs, ReadBack p R write a b)
    (same : comma.intercalate (as.map write) ++ close :: r =
      comma.intercalate (bs.map write) ++ close :: r') :
    List.Forall₂ R as bs ∧ r = r' := by
  have opens : ∀ cs : List α, ∀ c ∈ cs, Opens p close (comma ++ write c) := fun _ _ _ =>
    ⟨',', _, rfl, separates, apart⟩
  have behind : ∀ a ∈ as, ∀ b ∈ bs, ReadBack p R (comma ++ write ·) a b := by
    intro a ha b hb r r' stops stops' same
    rw [List.append_assoc, List.append_assoc] at same
    exact items a ha b hb r r' stops stops' (List.append_cancel_left same)
  cases as with
  | nil =>
    cases bs with
    | nil => exact ⟨.nil, (List.cons.inj same).2⟩
    | cons b bs =>
      rw [List.map_cons, intercalate_comma, List.append_assoc] at same
      exact absurd same ((opensB b List.mem_cons_self).ne_closed _)
  | cons a as =>
    cases bs with
    | nil =>
      rw [List.map_cons, intercalate_comma, List.append_assoc] at same
      exact absurd same.symm ((opensA a List.mem_cons_self).ne_closed _)
    | cons b bs =>
      refine flatMap_unique closing (opens (a :: as)) (opens (b :: bs)) behind ?_
      have led := congrArg (comma ++ ·) same
      simpa only [List.map_cons, intercalate_comma, List.flatMap_map, List.flatMap_cons,
        List.append_assoc] using led

/-- Hexadecimal digits, the other way. -/
def hexValue (c : Char) : Nat := if c.isDigit then c.toNat - 48 else c.toNat - 87

theorem hexValue_digitChar : ∀ n < 16, hexValue (Nat.digitChar n) = n := by decide

/-- The number that a row of hexadecimal digits stands for. -/
def hexNumber (digits : List Char) : Nat := digits.foldl (fun n c => 16 * n + hexValue c) 0

theorem hexNumber_toDigits (n : Nat) : hexNumber (Nat.toDigits 16 n) = n := by
  induction n using Nat.strongRecOn with
  | ind n ih =>
    rcases Nat.lt_or_ge n 16 with small | large
    · rw [Nat.toDigits_of_lt_base small, hexNumber, List.foldl_cons, List.foldl_nil,
        hexValue_digitChar n small]
      omega
    · have last : n % 16 < 16 := Nat.mod_lt n (by decide)
      have before : n / 16 < n := Nat.div_lt_self (by omega) (by decide)
      rw [Nat.toDigits_of_base_le (by decide) large, hexNumber, List.foldl_append, ← hexNumber,
        ih _ before, List.foldl_cons, List.foldl_nil, hexValue_digitChar _ last]
      omega

/-- The character that ends a code point's number. -/
def closingBrace : Char := '\x7d'

theorem digitChar_ne_closingBrace : ∀ n < 16, Nat.digitChar n ≠ closingBrace := by decide

theorem closingBrace_notMem_toDigits (n : Nat) : closingBrace ∉ Nat.toDigits 16 n := by
  induction n using Nat.strongRecOn with
  | ind n ih =>
    rcases Nat.lt_or_ge n 16 with small | large
    · rw [Nat.toDigits_of_lt_base small, List.mem_singleton]
      exact (digitChar_ne_closingBrace n small).symm
    · have last : n % 16 < 16 := Nat.mod_lt n (by decide)
      rw [Nat.toDigits_of_base_le (by decide) large, List.mem_append, List.mem_singleton, not_or]
      exact ⟨ih _ (Nat.div_lt_self (by omega) (by decide)), (digitChar_ne_closingBrace _ last).symm⟩

/-- What a letter behind a backslash stands for. -/
def shortMeaning (e : Char) : Char :=
  if e = '0' then '\x00' else if e = 't' then '\t' else if e = 'r' then '\r'
  else if e = 'n' then '\n' else e

/-- Reads one character of a quoted text. -/
def readChar : List Char → Option (Char × List Char)
  | [] => none
  | [c] => some (c, [])
  | c :: e :: rest =>
    if c ≠ backslash then some (c, e :: rest)
    else if e ≠ 'u' then some (shortMeaning e, rest)
    else
      let digits := rest.tail.takeWhile (· != closingBrace)
      some (Char.ofNat (hexNumber digits), (rest.tail.drop digits.length).tail)

section

variable {s : QuoteStyle} {mark : Bool} {c e : Char}

theorem shortMeaning_of_shortEscape? (short : shortEscape? s c = some e) :
    e ≠ 'u' ∧ shortMeaning e = c := by
  unfold shortEscape? at short
  split_ifs at short <;> cases short <;> simp_all [shortMeaning, backslash, quotationMark, apostrophe]

theorem ne_backslash_of_shortEscape? (none : shortEscape? s c = none) : c ≠ backslash := by
  rintro rfl
  cases none

theorem ne_quotationMark_of_shortEscape? (none : shortEscape? s c = none) : c ≠ quotationMark := by
  rintro rfl
  cases none

/-- The three ways in which a character is written. -/
theorem escapeChar_cases (s : QuoteStyle) (mark : Bool) (c : Char) :
    (∃ e, shortEscape? s c = some e ∧ escapeChar s mark c = [backslash, e]) ∨
      escapeChar s mark c = codePointEscape c ∨
      shortEscape? s c = none ∧ escapeChar s mark c = [c] := by
  cases short : shortEscape? s c with
  | some e => exact .inl ⟨e, rfl, by rw [escapeChar, short]⟩
  | none =>
    simp only [escapeChar, short]
    split_ifs
    · exact .inr (.inl rfl)
    · exact .inr (.inl rfl)
    · exact .inr (.inr ⟨trivial, rfl⟩)

theorem readChar_codePointEscape (c : Char) (rest : List Char) :
    readChar (codePointEscape c ++ rest) = some (c, rest) := by
  have digits : (Nat.toDigits 16 c.toNat ++ closingBrace :: rest).takeWhile (· != closingBrace) =
      Nat.toDigits 16 c.toNat := by
    refine takeWhile_word (fun d inside => ?_) (.cons (by simp) rest)
    exact bne_iff_ne.2 fun same => closingBrace_notMem_toDigits c.toNat (same ▸ inside)
  have text : codePointEscape c ++ rest =
      backslash :: 'u' :: '\x7b' :: (Nat.toDigits 16 c.toNat ++ closingBrace :: rest) := by
    simp [codePointEscape, closingBrace]
  rw [text, readChar, if_neg (not_not.2 rfl), if_neg (not_not.2 rfl)]
  simp only [List.tail_cons, digits, hexNumber_toDigits, Char.ofNat_toNat, List.drop_left]

theorem readChar_escapeChar (s : QuoteStyle) (mark : Bool) (c : Char) (rest : List Char) :
    readChar (escapeChar s mark c ++ rest) = some (c, rest) := by
  rcases escapeChar_cases s mark c with ⟨e, short, text⟩ | text | ⟨none, text⟩
  · obtain ⟨notNumber, meaning⟩ := shortMeaning_of_shortEscape? short
    rw [text]
    simp [readChar, notNumber, meaning]
  · rw [text, readChar_codePointEscape]
  · rw [text]
    cases rest with
    | nil => rfl
    | cons d rest => simp [readChar, ne_backslash_of_shortEscape? none]

/-- Reading does not need to know whether marks were escaped. -/
theorem escapeChar_readBack (s : QuoteStyle) (x y : Bool × Char) :
    ReadBack (fun _ => false) (·.2 = ·.2) (fun x => escapeChar s x.1 x.2) x y := by
  intro r r' _ _ same
  have read := congrArg readChar same
  rw [readChar_escapeChar, readChar_escapeChar] at read
  exact Prod.mk.inj (Option.some.inj read)

/-- A quotation mark inside of a quoted text stands behind a backslash. -/
theorem escapeChar_opens (s : QuoteStyle) (mark : Bool) (c : Char) :
    Opens (fun _ => false) quotationMark (escapeChar s mark c) := by
  rcases escapeChar_cases s mark c with ⟨e, -, text⟩ | text | ⟨none, text⟩
  · exact ⟨backslash, [e], text, rfl, by decide⟩
  · exact ⟨backslash, _, text, rfl, by decide⟩
  · exact ⟨c, [], text, rfl, ne_quotationMark_of_shortEscape? none⟩

end

/-- The characters of a text, each with whether a mark is escaped in its place. -/
def placed (s : QuoteStyle) : List Char → List (Bool × Char)
  | [] => []
  | c :: cs => (true, c) :: cs.map (Prod.mk (s.marks = .everywhere))

theorem map_snd_placed (s : QuoteStyle) (cs : List Char) : (placed s cs).map Prod.snd = cs := by
  cases cs with
  | nil => rfl
  | cons c cs => simp [placed, Function.comp_def]

theorem escape_eq_flatMap (s : QuoteStyle) (cs : List Char) :
    escape s cs = (placed s cs).flatMap fun x => escapeChar s x.1 x.2 := by
  cases cs with
  | nil => rfl
  | cons c cs => rw [escape, placed, List.flatMap_cons, List.flatMap_map]

/-- Quoted texts tell what they quote, whatever stands behind them. -/
theorem quote_unique {s : QuoteStyle} {t u : String} {r r' : List Char}
    (same : (quote s t).toList ++ r = (quote s u).toList ++ r') : t = u ∧ r = r' := by
  simp only [quote, escape_eq_flatMap, String.toList_ofList, List.cons_append, List.append_assoc,
    List.nil_append, List.cons.injEq, true_and] at same
  obtain ⟨characters, left⟩ := flatMap_unique rfl (fun x _ => escapeChar_opens s x.1 x.2)
    (fun y _ => escapeChar_opens s y.1 y.2) (fun x _ y _ => escapeChar_readBack s x y) same
  have texts := map_eq_of_forall₂ characters
  rw [map_snd_placed, map_snd_placed] at texts
  exact ⟨String.toList_inj.1 texts, left⟩

end PatternDispatch.Text
