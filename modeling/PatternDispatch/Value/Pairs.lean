import PatternDispatch.Value.Equality

/-! The pairs of a hash: a finite map that keeps the order in which its keys were first inserted.
Keys are told apart by key equality, with the stored key on its left. -/
namespace PatternDispatch.Pairs

/-- Sets the value of a key. A key that is present keeps its place and its first form; a new one
goes to the end. -/
def put : Pairs → Value → Value → Pairs
  | [], k, v => [(k, v)]
  | (k', v') :: ps, k, v => if k'.eql k then (k', v) :: ps else (k', v') :: put ps k v

/-- The value of a key. -/
def get? (ps : Pairs) (k : Value) : Option Value :=
  (ps.find? fun p => p.1.eql k).map Prod.snd

/-- The value of a symbol key. -/
def getSymbol? (ps : Pairs) (n : Name) : Option Value :=
  (ps.find? fun p => p.1.symbol? == some n).map Prod.snd

/-- The map that inserting pairs one by one leaves. -/
def ofList (ps : List (Value × Value)) : Pairs := ps.foldl (fun m p => put m p.1 p.2) []

/-- Pairs with symbol keys, inserted one by one. -/
def ofSymbols (ps : List (Name × Value)) : Pairs :=
  ofList (ps.map fun p => (.symbol p.1, p.2))

end PatternDispatch.Pairs
