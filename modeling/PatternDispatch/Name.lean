import Std.Data.HashMap

/-! Names and the interner that hands them out. A name is a number; two names of one interner are
equal exactly when their texts are. The empty text is always interned, under the first number. -/
namespace PatternDispatch

/-- An interned text: identifiers, symbols and hash keys are compared by number. -/
structure Name where
  index : Nat
  deriving DecidableEq, Hashable

namespace Name

/-- The name of the empty text in every interner. -/
def empty : Name := ⟨0⟩

instance : Inhabited Name := ⟨empty⟩

/-- How a debug rendering writes a name: by number, since it has no interner at hand. -/
def debug (n : Name) : String := s!"Name({n.index})"

/-- Names are ordered by number, which is the order of first interning. -/
def cmp (m n : Name) : Ordering := compare m.index n.index

end Name

/-- A table of numbered entries is full. -/
structure CapacityError where
  /-- What the table holds. -/
  table : String
  /-- What its entries are called. -/
  entries : String
  count : Nat
  limit : Nat
  deriving DecidableEq

namespace CapacityError

def message (e : CapacityError) : String :=
  s!"{e.table} exceeded capacity: {e.count} {e.entries}, max is {e.limit}"

end CapacityError

/-- The interned texts in order of first appearance; a text's position is its name's number. -/
structure Interner where
  texts : List String
  nodup : texts.Nodup
  empty_first : texts[0]? = some ""

namespace Interner

/-- Names are numbered below this bound, which is `2 ^ 32`. -/
def capacity : Nat := 4294967296

/-- Holds only the empty text. -/
def new : Interner := ⟨[""], by simp, rfl⟩

instance : Inhabited Interner := ⟨new⟩

/-- Number of interned texts, the empty one included. -/
def size (t : Interner) : Nat := t.texts.length

/-- Whether only the empty text is interned. -/
def isEmpty (t : Interner) : Bool := t.size ≤ 1

/-- The name of a text that is already interned. -/
def get? (t : Interner) (s : String) : Option Name :=
  if s ∈ t.texts then some ⟨t.texts.idxOf s⟩ else none

/-- The text of a name; `none` for a number that was never handed out. -/
def lookup? (t : Interner) (n : Name) : Option String := t.texts[n.index]?

/-- The text of a name that this interner handed out. -/
def text (t : Interner) (n : Name) : String := (t.lookup? n).getD ""

def overflow (count : Nat) : CapacityError := ⟨"interner", "strings", count, capacity - 1⟩

/-- Appends a text that is not yet interned. -/
def push (t : Interner) (s : String) (h : s ∉ t.texts) : Interner where
  texts := t.texts ++ [s]
  nodup := by
    rw [List.nodup_append]
    refine ⟨t.nodup, by simp, fun a ha b hb hab => ?_⟩
    rw [List.mem_singleton] at hb
    exact h (hb ▸ hab ▸ ha)
  empty_first := by
    have hpos : 0 < t.texts.length := by
      rcases ht : t.texts with _ | ⟨x, xs⟩
      · simpa [ht] using t.empty_first
      · simp
    rw [List.getElem?_append_left hpos]
    exact t.empty_first

/-- The name of a text, which joins the table if it is new. -/
def intern (t : Interner) (s : String) : Except CapacityError (Name × Interner) :=
  if h : s ∈ t.texts then .ok (⟨t.texts.idxOf s⟩, t)
  else if t.size < capacity then .ok (⟨t.size⟩, t.push s h)
  else .error (overflow t.size)

theorem lookup?_of_get? {t : Interner} {s : String} {n : Name} (h : t.get? s = some n) :
    t.lookup? n = some s := by
  unfold get? at h
  split at h
  · next hs =>
    cases h
    have hlt : t.texts.idxOf s < t.texts.length := List.idxOf_lt_length_iff.2 hs
    simp [lookup?, List.getElem?_eq_getElem hlt, List.getElem_idxOf hlt]
  · cases h

theorem get?_eq_none_iff (t : Interner) (s : String) : t.get? s = none ↔ s ∉ t.texts := by
  simp [get?]

end Interner

/-- An interner as it is kept for speed: a map from texts to numbers, and the texts by number. -/
structure InternTable where
  indices : Std.HashMap String Nat
  strings : Array String

namespace InternTable

/-- Holds only the empty text. -/
def new : InternTable := ⟨{("", 0)}, #[""]⟩

def get? (t : InternTable) (s : String) : Option Name := t.indices[s]?.map Name.mk

/-- A new text is added to both tables. -/
def intern (t : InternTable) (s : String) : Except CapacityError (Name × InternTable) :=
  match t.indices[s]? with
  | some i => .ok (⟨i⟩, t)
  | none =>
    let index := t.strings.size
    if index < Interner.capacity then
      .ok (⟨index⟩, ⟨t.indices.insert s index, t.strings.push s⟩)
    else .error (Interner.overflow index)

end InternTable

end PatternDispatch
