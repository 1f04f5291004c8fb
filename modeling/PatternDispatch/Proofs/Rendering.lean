import Std.Data.String.ToInt
import PatternDispatch.Dispatch
import PatternDispatch.Proofs.InsideValues
import PatternDispatch.Proofs.Interning
import PatternDispatch.Proofs.ReadingBack

/-! What the text of a value tells of it. Values that are built from `nil`, booleans, integers,
strings and symbols can be read back from their texts, up to the identities of arrays and hashes,
which no text shows. A text that begins with a word character is a word and ends where the word
does; any other begins with a mark that only one kind of value has, and ends with the mark that
closes it or, after a symbol's colon, with a word. -/
namespace PatternDispatch

open Text

/-- A letter or an underscore, then letters, digits and underscores. -/
def isIdentifier (s : String) : Bool :=
  match s.toList with
  | [] => false
  | c :: cs => (c.isAlpha || c == '_') && cs.all fun d => d.isAlphanum || d == '_'

/-- What identifiers, integers, `nil`, `true` and `false` are written with. -/
def wordChar (c : Char) : Bool := c.isAlphanum || c == '_' || c == '-'

namespace Value

mutual

/-- A value without the identities of what is in it. -/
def bare : Value → Value
  | .range start stop exclusive => .range (bareBound start) (bareBound stop) exclusive
  | .array _ items => .array ⟨0⟩ (bareItems items)
  | .hash _ pairs => .hash ⟨0⟩ (barePairs pairs)
  | .proc _ => .proc ⟨0⟩
  | .object _ className ancestors => .object ⟨0⟩ className ancestors
  | .nil => .nil
  | .bool b => .bool b
  | .int n => .int n
  | .float x => .float x
  | .symbol n => .symbol n
  | .classRef c => .classRef c
  | .str s => .str s
  | .regex r => .regex r

def bareBound : Option Value → Option Value
  | none => none
  | some v => some (bare v)

def bareItems : List Value → List Value
  | [] => []
  | v :: vs => bare v :: bareItems vs

def barePairs : List (Value × Value) → List (Value × Value)
  | [] => []
  | (k, v) :: ps => (bare k, bare v) :: barePairs ps

end

theorem bareItems_eq_map (items : List Value) : bareItems items = items.map bare := by
  induction items with
  | nil => rfl
  | cons v vs ih => rw [bareItems, ih, List.map_cons]

theorem barePairs_eq_map (pairs : Pairs) : barePairs pairs = pairs.map (Prod.map bare bare) := by
  induction pairs with
  | nil => rfl
  | cons p ps ih => rw [barePairs, ih, List.map_cons]; rfl

/-- The characters of a value's text. -/
def letters (names : Interner) (v : Value) : List Char := (v.inspect names).toList

/-- What stands behind a symbol that is a key. -/
def colon : List Char := [':', ' ']

/-- What stands behind any other key. -/
def arrow : List Char := [' ', '=', '>', ' ']

/-- The characters of a key's text, up to where its value begins. -/
def keyLetters (names : Interner) : Value → List Char
  | .symbol n => (names.text n).toList ++ colon
  | k => k.letters names ++ arrow

def entryLetters (names : Interner) (p : Value × Value) : List Char :=
  p.1.keyLetters names ++ p.2.letters names

variable {names : Interner} {a b v : Value}

theorem keyLetters_cases (names : Interner) (k : Value) :
    (∃ n, k = .symbol n) ∨ keyLetters names k = k.letters names ++ arrow := by
  cases k with
  | symbol n => exact .inl ⟨n, rfl⟩
  | _ => exact .inr rfl

theorem inspectItems_letters (names : Interner) (items : List Value) :
    (inspectItems names items).map String.toList = items.map (letters names) := by
  induction items with
  | nil => rfl
  | cons v vs ih => rw [inspectItems, List.map_cons, ih]; rfl

theorem inspectPairs_letters (names : Interner) (pairs : Pairs) :
    (inspectPairs names pairs).map String.toList = pairs.map (entryLetters names) := by
  induction pairs with
  | nil => rfl
  | cons p ps ih =>
    obtain ⟨k, v⟩ := p
    cases k
    all_goals
      simp only [inspectPairs, List.map_cons, ih, String.toList_append]
      rfl

theorem letters_array (names : Interner) (id : Identity) (items : List Value) :
    (Value.array id items).letters names =
      '[' :: (comma.intercalate (items.map (letters names)) ++ [']']) := by
  rw [letters, inspect, commaSeparated, String.toList_append, String.toList_append,
    String.toList_intercalate, inspectItems_letters]
  rfl

theorem letters_hash (names : Interner) (id : Identity) (pairs : Pairs) :
    (Value.hash id pairs).letters names =
      '\x7b' :: (comma.intercalate (pairs.map (entryLetters names)) ++ ['\x7d']) := by
  rw [letters, inspect, commaSeparated, String.toList_append, String.toList_append,
    String.toList_intercalate, inspectPairs_letters]
  rfl

theorem letters_symbol (names : Interner) (n : Name) :
    (Value.symbol n).letters names = ':' :: (names.text n).toList := by
  rw [letters, inspect, String.toList_append]
  rfl

/-- Built from `nil`, booleans, integers, strings and symbols that are identifiers. -/
inductive Plain (names : Interner) : Value → Prop where
  | nil : Plain names .nil
  | bool (b : Bool) : Plain names (.bool b)
  | int (n : Int64) : Plain names (.int n)
  | str (s : String) : Plain names (.str s)
  | symbol {n : Name} (identifier : isIdentifier (names.text n) = true) : Plain names (.symbol n)
  | array (id : Identity) {items : List Value} (all : ∀ v ∈ items, Plain names v) :
    Plain names (.array id items)
  | hash (id : Identity) {pairs : Pairs} (keys : ∀ p ∈ pairs, Plain names p.1)
    (values : ∀ p ∈ pairs, Plain names p.2) : Plain names (.hash id pairs)

/-- The mark with which the text of a value begins, if it is not a word. -/
def mark? : Value → Option Char
  | .symbol _ => some ':'
  | .str _ => some quotationMark
  | .array _ _ => some '['
  | .hash _ _ => some '\x7b'
  | _ => none

end Value

theorem isIdentifier_iff {s : String} : isIdentifier s = true ↔ ∃ c cs, s.toList = c :: cs ∧
    (c.isAlpha = true ∨ c = '_') ∧ ∀ d ∈ cs, d.isAlphanum = true ∨ d = '_' := by
  rw [isIdentifier]
  cases s.toList with
  | nil => simp
  | cons c cs => simp [List.all_eq_true]

/-- An identifier is a word. -/
theorem isIdentifier.word {s : String} (h : isIdentifier s = true) :
    (∃ c cs, s.toList = c :: cs) ∧ ∀ c ∈ s.toList, wordChar c = true := by
  obtain ⟨c, cs, text, first, others⟩ := isIdentifier_iff.1 h
  refine ⟨⟨c, cs, text⟩, fun d inside => ?_⟩
  rw [text] at inside
  rcases List.mem_cons.1 inside with rfl | inside
  · rcases first with letter | rfl
    · simp [wordChar, Char.isAlphanum, letter]
    · rfl
  · rcases others d inside with alphanumeric | rfl
    · simp [wordChar, alphanumeric]
    · rfl

/-- Names whose texts are the same identifier are the same. -/
theorem Interner.text_inj {names : Interner} {m n : Name}
    (identifier : isIdentifier (names.text m) = true) (same : names.text m = names.text n) :
    m = n := by
  have named : ∀ k : Name, names.text k = names.text m →
      names.get? (names.text m) = some k := by
    intro k text
    rw [get?_eq_some_iff]
    cases found : names.lookup? k with
    | some s => rw [← text, Interner.text, found]; rfl
    | none =>
      rw [← text, Interner.text, found] at identifier
      cases identifier
  exact Option.some.inj ((named m rfl).symm.trans (named n same.symm))

theorem Interner.text_unique {names : Interner} {m n : Name}
    (hm : isIdentifier (names.text m) = true) (hn : isIdentifier (names.text n) = true)
    {r r' : List Char} (stops : Stops wordChar r) (stops' : Stops wordChar r')
    (same : (names.text m).toList ++ r = (names.text n).toList ++ r') : m = n ∧ r = r' := by
  obtain ⟨words, left⟩ := word_unique (isIdentifier.word hm).2 (isIdentifier.word hn).2 stops stops'
    same
  exact ⟨text_inj hm (String.toList_inj.1 words), left⟩

namespace Value

variable {names : Interner} {a b v : Value}

/-- An integer is written with digits, and a minus sign before them if it is negative. -/
theorem letters_int (names : Interner) (n : Int64) :
    (∃ c cs, (Value.int n).letters names = c :: cs) ∧
      ∀ c ∈ (Value.int n).letters names, c.isDigit = true ∨ c = '-' := by
  have digits : ∀ m : Nat, (∃ c cs, m.repr.toList = c :: cs) ∧
      ∀ c ∈ m.repr.toList, c.isDigit = true := by
    intro m
    rw [Nat.toList_repr]
    exact ⟨List.exists_cons_of_ne_nil Nat.toDigits_ne_nil,
      fun c inside => Nat.isDigit_of_mem_toDigits (by decide) (by decide) inside⟩
  rw [letters, inspect]
  change (∃ c cs, n.toInt.repr.toList = c :: cs) ∧ ∀ c ∈ n.toInt.repr.toList, _
  cases n.toInt with
  | ofNat m => exact ⟨(digits m).1, fun c inside => .inl ((digits m).2 c inside)⟩
  | negSucc m =>
    rw [Int.repr, String.toList_append]
    refine ⟨⟨'-', _, rfl⟩, fun c inside => ?_⟩
    rcases List.mem_append.1 inside with sign | digit
    · exact .inr (List.mem_singleton.1 sign)
    · exact .inl ((digits _).2 c digit)

theorem letters_nil (names : Interner) : Value.nil.letters names = ['n', 'i', 'l'] := by
  rw [letters, inspect]
  decide

theorem letters_true (names : Interner) :
    (Value.bool true).letters names = ['t', 'r', 'u', 'e'] := by
  rw [letters, inspect, if_pos rfl]
  decide

theorem letters_false (names : Interner) :
    (Value.bool false).letters names = ['f', 'a', 'l', 's', 'e'] := by
  rw [letters, inspect, if_neg Bool.false_ne_true]
  decide

/-- A value that begins with no mark is a word. -/
theorem letters_word (plain : Plain names v) (unmarked : v.mark? = none) :
    (∃ c cs, v.letters names = c :: cs) ∧ ∀ c ∈ v.letters names, wordChar c = true := by
  cases plain with
  | nil =>
    rw [letters_nil]
    exact ⟨⟨_, _, rfl⟩, List.all_eq_true.1 rfl⟩
  | bool b =>
    cases b with
    | false =>
      rw [letters_false]
      exact ⟨⟨_, _, rfl⟩, List.all_eq_true.1 rfl⟩
    | true =>
      rw [letters_true]
      exact ⟨⟨_, _, rfl⟩, List.all_eq_true.1 rfl⟩
  | int n =>
    refine ⟨(letters_int names n).1, fun c inside => ?_⟩
    rcases (letters_int names n).2 c inside with digit | rfl
    · simp [wordChar, Char.isAlphanum, digit]
    · rfl
  | _ => cases unmarked

/-- Reads a word. -/
def readWord (w : List Char) : Value :=
  if w = ['n', 'i', 'l'] then .nil
  else if w = ['t', 'r', 'u', 'e'] then .bool true
  else if w = ['f', 'a', 'l', 's', 'e'] then .bool false
  else .int (Int64.ofInt ((String.ofList w).toInt?.getD 0))

theorem readWord_letters (plain : Plain names v) (unmarked : v.mark? = none) :
    readWord (v.letters names) = v := by
  cases plain with
  | nil => rw [letters_nil, readWord, if_pos rfl]
  | bool b =>
    cases b with
    | false => rw [letters_false, readWord, if_neg (by decide), if_neg (by decide), if_pos rfl]
    | true => rw [letters_true, readWord, if_neg (by decide), if_pos rfl]
  | int n =>
    -- an integer begins with no letter
    have other : ∀ (c : Char) (cs : List Char), ¬ (c.isDigit = true ∨ c = '-') →
        (Value.int n).letters names ≠ c :: cs := by
      intro c cs notDigit same
      exact notDigit ((letters_int names n).2 c (same ▸ List.mem_cons_self))
    have text : String.ofList ((Value.int n).letters names) = n.toInt.repr :=
      String.ofList_toList
    rw [readWord, if_neg (other 'n' _ (by decide)), if_neg (other 't' _ (by decide)),
      if_neg (other 'f' _ (by decide)), text, Int.toInt?_repr, Option.getD_some,
      Int64.ofInt_toInt]
  | _ => cases unmarked

/-- The first character of a text shows whether it is a word or by which mark it begins. -/
theorem letters_first (plain : Plain names v) : ∃ c cs, v.letters names = c :: cs ∧
    v.mark? = if wordChar c = true then none else some c := by
  cases marked : v.mark? with
  | none =>
    obtain ⟨⟨c, cs, text⟩, word⟩ := letters_word plain marked
    exact ⟨c, cs, text, (if_pos (word c (text ▸ List.mem_cons_self))).symm⟩
  | some m =>
    cases plain with
    | str s => cases marked; exact ⟨quotationMark, _, String.toList_ofList, rfl⟩
    | symbol identifier => cases marked; exact ⟨_, _, letters_symbol names _, rfl⟩
    | array id all => cases marked; exact ⟨_, _, letters_array names id _, rfl⟩
    | hash id keys values => cases marked; exact ⟨_, _, letters_hash names id _, rfl⟩
    | _ => cases marked

/-- Texts that agree begin alike. -/
theorem mark?_eq (ha : Plain names a) (hb : Plain names b) {r r' : List Char}
    (same : a.letters names ++ r = b.letters names ++ r') : a.mark? = b.mark? := by
  obtain ⟨c, cs, text, marked⟩ := letters_first ha
  obtain ⟨d, ds, text', marked'⟩ := letters_first hb
  rw [text, text'] at same
  rw [marked, marked', (List.cons.inj same).1]

theorem mark?_ne_bracket (v : Value) : v.mark? ≠ some ']' := by
  cases v <;> simp [mark?, quotationMark]

theorem mark?_ne_brace (v : Value) : v.mark? ≠ some '\x7d' := by
  cases v <;> simp [mark?, quotationMark]

/-- No text begins with a mark that closes. -/
theorem letters_opens (plain : Plain names v) {close : Char} (closing : wordChar close = false)
    (noMark : v.mark? ≠ some close) : Opens (fun _ => false) close (v.letters names) := by
  obtain ⟨c, cs, text, marked⟩ := letters_first plain
  refine ⟨c, cs, text, rfl, ?_⟩
  rintro rfl
  rw [if_neg (by rw [closing]; exact Bool.false_ne_true)] at marked
  exact noMark marked

theorem word_readBack (ha : Plain names a) (hb : Plain names b) (unmarked : a.mark? = none)
    (unmarked' : b.mark? = none) : ReadBack wordChar (·.bare = ·.bare) (letters names) a b := by
  intro r r' stops stops' same
  obtain ⟨words, left⟩ := word_unique (letters_word ha unmarked).2 (letters_word hb unmarked').2
    stops stops' same
  rw [← readWord_letters ha unmarked, words, readWord_letters hb unmarked']
  exact ⟨rfl, left⟩

theorem symbol_readBack {m n : Name} (hm : isIdentifier (names.text m) = true)
    (hn : isIdentifier (names.text n) = true) :
    ReadBack wordChar (·.bare = ·.bare) (letters names) (.symbol m) (.symbol n) := by
  intro r r' stops stops' same
  rw [letters_symbol, letters_symbol] at same
  obtain ⟨rfl, left⟩ := Interner.text_unique hm hn stops stops' (List.cons.inj same).2
  exact ⟨rfl, left⟩

/-- A symbol that stands as a key is no other key: if the other is a word, a colon follows the one
and an arrow the other. -/
theorem symbol_ne_key {n : Name} {k : Value} (hn : isIdentifier (names.text n) = true)
    (hk : Plain names k) (r r' : List Char) :
    (names.text n).toList ++ colon ++ r ≠ k.letters names ++ arrow ++ r' := by
  intro same
  rw [List.append_assoc, List.append_assoc] at same
  obtain ⟨⟨c, cs, text⟩, word⟩ := isIdentifier.word hn
  obtain ⟨d, ds, text', marked⟩ := letters_first hk
  have first : c = d := by
    rw [text, text'] at same
    exact (List.cons.inj same).1
  rw [← first, if_pos (word c (text ▸ List.mem_cons_self))] at marked
  have behind := (word_unique word (letters_word hk marked).2 (.cons rfl _) (.cons rfl _) same).2
  cases behind

theorem key_readBack {k l : Value} (hk : Plain names k) (hl : Plain names l)
    (other : ReadBack wordChar (·.bare = ·.bare) (letters names) k l) :
    ReadBack (fun _ => false) (·.bare = ·.bare) (keyLetters names) k l := by
  intro r r' _ _ same
  rcases keyLetters_cases names k with ⟨m, rfl⟩ | text
  · cases hk with
    | symbol hm =>
      rcases keyLetters_cases names l with ⟨n, rfl⟩ | text'
      · cases hl with
        | symbol hn =>
          rw [keyLetters, keyLetters, List.append_assoc, List.append_assoc] at same
          obtain ⟨rfl, left⟩ := Interner.text_unique hm hn (.cons rfl _) (.cons rfl _) same
          exact ⟨rfl, (List.append_right_inj colon).1 left⟩
      · rw [text', keyLetters] at same
        exact absurd same (symbol_ne_key hm hl r r')
  · rcases keyLetters_cases names l with ⟨n, rfl⟩ | text'
    · cases hl with
      | symbol hn =>
        rw [text, keyLetters] at same
        exact absurd same.symm (symbol_ne_key hn hk r' r)
    · rw [text, text', List.append_assoc, List.append_assoc] at same
      obtain ⟨same, left⟩ := other _ _ (.cons rfl _) (.cons rfl _) same
      exact ⟨same, (List.append_right_inj arrow).1 left⟩

theorem entry_readBack {p q : Value × Value} (hp : Plain names p.1) (hq : Plain names q.1)
    (key : ReadBack wordChar (·.bare = ·.bare) (letters names) p.1 q.1)
    (value : ReadBack wordChar (·.bare = ·.bare) (letters names) p.2 q.2) :
    ReadBack wordChar (fun p q => p.map bare bare = q.map bare bare) (entryLetters names) p q := by
  intro r r' stops stops' same
  rw [entryLetters, entryLetters, List.append_assoc, List.append_assoc] at same
  obtain ⟨keys, rest⟩ := key_readBack hp hq key _ _ (fun _ _ => rfl) (fun _ _ => rfl) same
  obtain ⟨values, left⟩ := value _ _ stops stops' rest
  exact ⟨Prod.ext keys values, left⟩

/-- No entry begins with the brace that closes its hash. -/
theorem entry_opens {p : Value × Value} (hp : Plain names p.1) :
    Opens (fun _ => false) '\x7d' (entryLetters names p) := by
  rcases keyLetters_cases names p.1 with ⟨n, symbol⟩ | behind
  · rw [symbol] at hp
    cases hp with
    | symbol hn =>
      obtain ⟨⟨c, cs, text⟩, word⟩ := isIdentifier.word hn
      refine ⟨c, cs ++ colon ++ p.2.letters names, ?_, rfl, ?_⟩
      · rw [entryLetters, symbol, keyLetters, text]
        rfl
      · rintro rfl
        exact absurd (word _ (text ▸ List.mem_cons_self)) (by decide)
  · obtain ⟨c, cs, text, -, other⟩ := letters_opens hp rfl p.1.mark?_ne_brace
    exact ⟨c, _, by rw [entryLetters, behind, text]; rfl, rfl, other⟩

/-- Texts are told apart. The induction is on what the first value is made of; the second is made of
as many parts, since its text agrees. -/
theorem letters_readBack (ha : Plain names a) (hb : Plain names b) :
    ReadBack wordChar (·.bare = ·.bare) (letters names) a b := by
  induction a using induction_on_parts generalizing b with
  | step a ih =>
    intro r r' stops stops' same
    have marks := mark?_eq ha hb same
    cases ha with
    | symbol hm =>
      cases hb with
      | symbol hn => exact symbol_readBack hm hn r r' stops stops' same
      | _ => simp [mark?, quotationMark] at marks
    | str s =>
      cases hb with
      | str t =>
        obtain ⟨rfl, left⟩ := quote_unique same
        exact ⟨rfl, left⟩
      | _ => simp [mark?, quotationMark] at marks
    | array id all =>
      cases hb with
      | array id' all' =>
        simp only [letters_array, List.cons_append, List.append_assoc, List.nil_append,
          List.cons.injEq, true_and] at same
        obtain ⟨items, left⟩ := separated_unique rfl rfl (by decide)
          (fun x hx => letters_opens (all x hx) rfl x.mark?_ne_bracket)
          (fun y hy => letters_opens (all' y hy) rfl y.mark?_ne_bracket)
          (fun x hx y hy => ih x (mem_parts_of_content hx) (all x hx) (all' y hy)) same
        refine ⟨?_, left⟩
        simp only [bare, bareItems_eq_map, map_eq_of_forall₂ items]
      | _ => simp [mark?, quotationMark] at marks
    | hash id keys values =>
      cases hb with
      | hash id' keys' values' =>
        simp only [letters_hash, List.cons_append, List.append_assoc, List.nil_append,
          List.cons.injEq, true_and] at same
        obtain ⟨entries, left⟩ := separated_unique rfl rfl (by decide)
          (fun p hp => entry_opens (keys p hp)) (fun q hq => entry_opens (keys' q hq))
          (fun p hp q hq => entry_readBack (keys p hp) (keys' q hq)
            (ih p.1 (mem_parts_of_key (key_mem_keys hp)) (keys p hp) (keys' q hq))
            (ih p.2 (mem_parts_of_content (value_mem_contents hp)) (values p hp) (values' q hq)))
          same
        refine ⟨?_, left⟩
        simp only [bare, barePairs_eq_map, map_eq_of_forall₂ entries]
      | _ => simp [mark?, quotationMark] at marks
    | _ => exact word_readBack (by constructor) hb rfl marks.symm r r' stops stops' same

theorem keyLetters_bare (same : v.bare.letters names = v.letters names) :
    v.bare.keyLetters names = v.keyLetters names := by
  cases v with
  | symbol n => rfl
  | _ => exact congrArg (· ++ arrow) same

/-- Identities are not shown. -/
theorem letters_bare (names : Interner) (v : Value) : v.bare.letters names = v.letters names := by
  induction v using induction_on_parts with
  | step v ih =>
    cases v with
    | range start stop exclusive =>
      have bound : ∀ o : Option Value, (∀ x ∈ o, x.bare.letters names = x.letters names) →
          inspectBound names (bareBound o) = inspectBound names o := by
        rintro (_ | x) inside
        · rfl
        · exact String.toList_inj.1 (inside x rfl)
      have first := bound start fun x hx => ih x (mem_parts_of_content (start_mem_contents hx))
      have last := bound stop fun x hx => ih x (mem_parts_of_content (stop_mem_contents hx))
      rw [bare, letters, letters, inspect, inspect, first, last]
    | array id items =>
      have each : ∀ x ∈ items, (letters names ∘ bare) x = letters names x := fun x hx =>
        ih x (mem_parts_of_content hx)
      rw [bare, letters_array, letters_array, bareItems_eq_map, List.map_map,
        List.map_congr_left each]
    | hash id pairs =>
      have each : ∀ p ∈ pairs, (entryLetters names ∘ Prod.map bare bare) p =
          entryLetters names p := by
        intro p hp
        have key := keyLetters_bare (ih p.1 (mem_parts_of_key (key_mem_keys hp)))
        have value := ih p.2 (mem_parts_of_content (value_mem_contents hp))
        exact congrArg₂ (· ++ ·) key value
      rw [bare, letters_hash, letters_hash, barePairs_eq_map, List.map_map,
        List.map_congr_left each]
    | _ => rfl

/-- Two plain values have the same text exactly when they are the same but for identities: of the same
kinds throughout, with items and pairs in the same order. Hence the message of the error that nothing
matched says which value it was. -/
theorem rendering_unambiguous (ha : Plain names a) (hb : Plain names b) :
    (a.inspect names = b.inspect names ↔ a.bare = b.bare) ∧
      ∀ {σ : Type} (h : Host σ) (m : Methods σ) (config : Config) (s s' : Session σ),
        ∃ error error' : EvalError,
          Engine.noMatch ⟨h.withOwnBehaviour names m, names, config⟩ a s = (.error error, s) ∧
          Engine.noMatch ⟨h.withOwnBehaviour names m, names, config⟩ b s' = (.error error', s') ∧
          error.isNoMatch = true ∧ error'.isNoMatch = true ∧
          (error.message = error'.message ↔ a.bare = b.bare) := by
  have texts : a.inspect names = b.inspect names ↔ a.bare = b.bare := by
    constructor
    · intro same
      exact (letters_readBack ha hb [] [] .nil .nil (by rw [letters, same]; rfl)).1
    · intro same
      rw [← String.toList_inj]
      exact (letters_bare names a).symm.trans (same ▸ letters_bare names b)
  exact ⟨texts, fun h m config s s' => ⟨_, _, rfl, rfl, rfl, rfl, texts⟩⟩

end Value

/-- A comma between quotation marks separates two strings or stands in one. -/
theorem rendering_unambiguous_sample :
    let names : Interner := Interner.new.push "a" (by decide)
    let two : Value := .hash ⟨1⟩ [(.symbol ⟨1⟩, .array ⟨2⟩ [.str "a", .str "b"])]
    let one : Value := .hash ⟨1⟩ [(.symbol ⟨1⟩, .array ⟨2⟩ [.str "a\", \"b"])]
    two.Plain names ∧ one.Plain names ∧ two.inspect names ≠ one.inspect names := by
  intro names two one
  have symbol : (Value.symbol ⟨1⟩).Plain names := by
    refine .symbol ?_
    change isIdentifier "a" = true
    decide
  have plain : ∀ items : List String,
      (Value.hash ⟨1⟩ [(.symbol ⟨1⟩, .array ⟨2⟩ (items.map .str))]).Plain names := by
    intro items
    refine .hash ⟨1⟩ (by simpa using symbol) ?_
    rintro p (_ | ⟨_, ⟨⟩⟩)
    refine .array ⟨2⟩ fun v inside => ?_
    obtain ⟨s, -, rfl⟩ := List.mem_map.1 inside
    exact .str s
  refine ⟨plain ["a", "b"], plain ["a\", \"b"], fun same => ?_⟩
  have bares := (Value.rendering_unambiguous (plain ["a", "b"]) (plain ["a\", \"b"])).1.1 same
  simp [Value.bare, Value.barePairs, Value.bareItems] at bares

end PatternDispatch
