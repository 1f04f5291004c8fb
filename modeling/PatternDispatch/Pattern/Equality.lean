import PatternDispatch.Pattern

/-! Equality of patterns: the same shape throughout, with equal values at the same places. -/
namespace PatternDispatch

def ValueRef.beq : ValueRef → ValueRef → Bool
  | .localVar m, .localVar n => m == n
  | .external r, .external s => r == s
  | .expr e, .expr f => e == f
  | .inline v, .inline w => v == w
  | _, _ => false

namespace Pattern

mutual

def beq : Pattern → Pattern → Bool
  | .literal v, .literal w => v == w
  | .binding s, .binding t => s == t
  | .wildcard, .wildcard => true
  | .discard m, .discard n => m == n
  | .pin r, .pin s => r.beq s
  | .either ps, .either qs => beqAll ps qs
  | .capture p s, .capture q t => beq p q && s == t
  | .constant r p, .constant s q => r.beq s && beqInner p q
  | .list p, .list q => beqList p q
  | .hash ⟨es, r⟩, .hash ⟨fs, s⟩ => beqEntries es fs && r == s
  | _, _ => false

def beqInner : Option Pattern → Option Pattern → Bool
  | none, none => true
  | some p, some q => beq p q
  | _, _ => false

def beqAll : List Pattern → List Pattern → Bool
  | [], [] => true
  | p :: ps, q :: qs => beq p q && beqAll ps qs
  | _, _ => false

def beqEntries : List (Name × Pattern) → List (Name × Pattern) → Bool
  | [], [] => true
  | (m, p) :: ps, (n, q) :: qs => m == n && beq p q && beqEntries ps qs
  | _, _ => false

def beqList : ListPattern → ListPattern → Bool
  | ⟨l, w, r, t, o⟩, ⟨l', w', r', t', o'⟩ =>
    beqAll l l' && beqWindow w w' && r == r' && beqAll t t' && o == o'

def beqWindow : Option FindWindow → Option FindWindow → Bool
  | none, none => true
  | some ⟨b, es, a⟩, some ⟨b', es', a'⟩ => b == b' && beqAll es es' && a == a'
  | _, _ => false

end

instance : BEq Pattern := ⟨beq⟩

end Pattern

end PatternDispatch
