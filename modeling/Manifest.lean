import Manifest.Session
import Manifest.Evaluator.Run
import Manifest.Evaluator.Basic
import Manifest.Evaluator.Monad
import Manifest.Host.Library
import Manifest.CallStack
import Manifest.Environment
import Manifest.Target
import Manifest.Collection
import Manifest.Comparator
import Manifest.Index
import Manifest.Relationship
import Manifest.Number.Arithmetic
import Manifest.Value.Entries
import Manifest.Value.Text
import Manifest.Regex
import Manifest.Expr.Same
import Manifest.Value.Digest
import Manifest.Decimal.Layout
import Manifest.Decimal.Numeral
import Manifest.Text.Case
import Manifest.Text.CharSet.Word
import Manifest.Text.Quoted
import Manifest.Proofs.Law
import Manifest.Proofs.Distribution
import Manifest.Proofs.Congruence
import Manifest.Proofs.Lawful
import Manifest.Proofs.Calls
import Manifest.Proofs.Frame
import Manifest.Proofs.CallBalance
import Manifest.Proofs.Strictness
import Manifest.Proofs.Termination
import Manifest.Proofs.Assignment
import Manifest.Proofs.Reserved
import Manifest.Proofs.Comparison
import Manifest.Proofs.Shadowing
import Manifest.Proofs.Places
import Manifest.Proofs.Backtraces
import Manifest.Proofs.Keys
import Manifest.Proofs.Equality
import Manifest.Proofs.Selection
import Manifest.Proofs.Quiet
import Manifest.Proofs.Assignability
import Manifest.Proofs.Isolation
import Manifest.Proofs.Choices
import Manifest.Proofs.Resolution
import Manifest.Proofs.Candidates
import Manifest.Proofs.Exactness
import Manifest.Proofs.Numerals
import Manifest.Proofs.Defaults
import Manifest.Proofs.Destructuring
import Manifest.Proofs.Compound
import Manifest.Proofs.Rejection
import Manifest.Proofs.ArgumentCount
import Manifest.Proofs.NamedCalls
import Manifest.Proofs.Insertion
import Manifest.Proofs.Merging
import Manifest.Proofs.Difference
import Manifest.Proofs.Pairing
import Manifest.Proofs.DistinctKeys
import Manifest.Proofs.Literals
import Manifest.Proofs.Flattening
import Manifest.Proofs.PatternMemory
import Manifest.Proofs.SplicedCandidates
import Manifest.Proofs.RelationshipChains
import Manifest.Proofs.NumberedVariables
import Manifest.Proofs.Bounds
import Manifest.Proofs.Slices
import Manifest.Proofs.Substrings
import Manifest.Proofs.FloatOrder
import Manifest.Proofs.Rounding
import Manifest.Proofs.NumericOrder
