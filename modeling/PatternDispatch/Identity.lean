/-! Identities of the values that live on a heap. Two values that share an identity are one value;
equal contents alone do not make two values one. -/
namespace PatternDispatch

/-- Serial number of a heap value. A host hands out each number once. -/
structure Identity where
  serial : Nat
  deriving DecidableEq, Hashable

end PatternDispatch
