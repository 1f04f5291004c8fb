/-! Sets of characters given by the code points at which membership changes, as the tables of a
character standard are kept. -/
namespace PatternDispatch.Text

/-- A set of code points. The first bound opens a run of members, the second closes it, and so on;
bounds increase. -/
structure CharSet where
  bounds : List Nat

namespace CharSet

/-- A code point is a member when an odd number of bounds are at most it. -/
def has (s : CharSet) (n : Nat) : Bool := (s.bounds.takeWhile (· ≤ n)).length % 2 = 1

def contains (s : CharSet) (c : Char) : Bool := s.has c.toNat

end CharSet

end PatternDispatch.Text
