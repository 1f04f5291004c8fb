import PatternDispatch.Name
import PatternDispatch.Reference
import PatternDispatch.Binary64
import PatternDispatch.Binary64.Decimal
import PatternDispatch.Text.CharSet
import PatternDispatch.Text.Unprintable
import PatternDispatch.Text.CombiningMark
import PatternDispatch.Text.Quoted
import PatternDispatch.Identity
import PatternDispatch.Value
import PatternDispatch.Value.Equality
import PatternDispatch.Value.Pairs
import PatternDispatch.Value.Inspect
import PatternDispatch.Value.Capability
import PatternDispatch.Error
import PatternDispatch.Pattern
import PatternDispatch.Pattern.Equality
import PatternDispatch.Environment
import PatternDispatch.ScopeTree
import PatternDispatch.Case
import PatternDispatch.Bindings
import PatternDispatch.Event
import PatternDispatch.Host
import PatternDispatch.Deconstruction
import PatternDispatch.Matching
import PatternDispatch.Dispatch
import PatternDispatch.ExprTable
import PatternDispatch.Script.Regex.CharacterKinds
import PatternDispatch.Script.Regex.Expr
import PatternDispatch.Script.Regex.Token
import PatternDispatch.Script.Regex
import PatternDispatch.Script.Heap
import PatternDispatch.Script.Expr
import PatternDispatch.Script.Host
import PatternDispatch.Script.Step
import PatternDispatch.Proofs.Dialogue
import PatternDispatch.Proofs.KeptAnswers
import PatternDispatch.Proofs.Requests
import PatternDispatch.Proofs.PersistentMatching
import PatternDispatch.Proofs.Answering
import PatternDispatch.Proofs.Recording
import PatternDispatch.Proofs.SharedBindings
import PatternDispatch.Proofs.PersistentDispatch
import PatternDispatch.Proofs.Questions
import PatternDispatch.Proofs.Parts
import PatternDispatch.Proofs.ScopeStack
import PatternDispatch.Proofs.ArmsTried
import PatternDispatch.Proofs.CacheTransparency
import PatternDispatch.Proofs.HookDiscipline
import PatternDispatch.Proofs.DeclarativeReading
import PatternDispatch.Proofs.BoundTargets
import PatternDispatch.Proofs.Composition
import PatternDispatch.Proofs.FaultyAnswers
import PatternDispatch.Proofs.ScopeBalance
import PatternDispatch.Proofs.RecordedDispatch
import PatternDispatch.Proofs.CallAccounts
import PatternDispatch.Proofs.ErrorOrigins
import PatternDispatch.Proofs.CallOrder
import PatternDispatch.Proofs.SymbolKeys
import PatternDispatch.Proofs.ClosedHashes
import PatternDispatch.Proofs.KeyStrictness
import PatternDispatch.Proofs.OneLineForms
import PatternDispatch.Proofs.AlikeAnswers
import PatternDispatch.Proofs.GenuineAnswers
import PatternDispatch.Proofs.StandIns
import PatternDispatch.Proofs.ClosedObjects
import PatternDispatch.Proofs.ObjectsAsHashes
import PatternDispatch.Proofs.InsideValues
import PatternDispatch.Proofs.EqualValues
import PatternDispatch.Proofs.InsertedPairs
import PatternDispatch.Proofs.EqualityLaws
import PatternDispatch.Proofs.StructuralEquality
import PatternDispatch.Proofs.NumbersInKeys
import PatternDispatch.Proofs.EqualitySides
import PatternDispatch.Proofs.InsertionOrder
import PatternDispatch.Proofs.NamedRests
import PatternDispatch.Proofs.SplatCaptures
import PatternDispatch.Proofs.WindowSearch
import PatternDispatch.Proofs.ListForms
import PatternDispatch.Proofs.SideBySide
import PatternDispatch.Proofs.OwnAnswers
import PatternDispatch.Proofs.PairOrder
import PatternDispatch.Proofs.NearestScope
import PatternDispatch.Proofs.BindingReaders
import PatternDispatch.Proofs.Alternation
import PatternDispatch.Proofs.ReportedCounts
import PatternDispatch.Proofs.CoarserPolicies
import PatternDispatch.Proofs.ScopeSteps
import PatternDispatch.Proofs.BalancedRuns
import PatternDispatch.Proofs.Interning
import PatternDispatch.Proofs.ReadingBack
import PatternDispatch.Proofs.Rendering
import PatternDispatch.Proofs.CheckedMatching
import PatternDispatch.Proofs.ListLengths
