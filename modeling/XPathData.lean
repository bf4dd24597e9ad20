import XPathData.Library.Standard
import XPathData.Regex.Cache
import XPathData.Sequence.Coercion
import XPathData.Sequence.Mapping
import XPathData.Sequence.NodeSet
import XPathData.Tree.Build
import XPathData.Proofs.Sequence.Remaining
import XPathData.Proofs.Sequence.StepsLeft
import XPathData.Proofs.Sequence.Stepping
import XPathData.Proofs.Sequence.Replay
import XPathData.Proofs.Sequence.OnDemand
import XPathData.Proofs.Tree.Ancestry
import XPathData.Proofs.Tree.Preorder
import XPathData.Proofs.Tree.Growth
import XPathData.Proofs.Tree.Numbering
import XPathData.Proofs.Tree.Keys
import XPathData.Proofs.Tree.Sorting
import XPathData.Proofs.Sequence.SetAlgebra
import XPathData.Proofs.Sequence.Counting
import XPathData.Proofs.Sequence.Typing
import XPathData.Proofs.Atomic.Cast
import XPathData.Proofs.Sequence.Casting
import XPathData.Proofs.Sequence.Conversion
import XPathData.Proofs.Tree.Comparison
import XPathData.Proofs.Decimal.Value
import XPathData.Proofs.Atomic.Relation
import XPathData.Proofs.Atomic.Key
import XPathData.Proofs.Library.Distinct
import XPathData.Proofs.Calendar.DayNumber
import XPathData.Proofs.Text.Hex
import XPathData.Proofs.Atomic.FromText
import XPathData.Proofs.Atomic.TwoKeys
import XPathData.Proofs.Decimal.Double
import XPathData.Proofs.Text.Digits
import XPathData.Proofs.Decimal.Text
import XPathData.Proofs.Decimal.Arithmetic
import XPathData.Proofs.Duration.Components
import XPathData.Proofs.Duration.Sign
import XPathData.Proofs.Duration.Parts
import XPathData.Proofs.Duration.RoundTrip
import XPathData.Proofs.Sequence.Answers
import XPathData.Proofs.Calendar.Text
import XPathData.Proofs.Calendar.RoundTrip
import XPathData.Proofs.Atomic.Exchange
import XPathData.Proofs.Atomic.Order
import XPathData.Proofs.Sequence.Handover
import XPathData.Proofs.Sequence.Unordered
import XPathData.Proofs.Sequence.OnePass
import XPathData.Proofs.Atomic.CalendarEnds
import XPathData.Proofs.Text.Space
import XPathData.Proofs.Text.Base64
import XPathData.Proofs.Atomic.WellFormed
import XPathData.Proofs.Atomic.Calculation
import XPathData.Proofs.Atomic.Upcast
import XPathData.Proofs.Atomic.TextReadBack
import XPathData.Proofs.Atomic.IntegerArithmetic
import XPathData.Proofs.Sequence.GeneralComparison
import XPathData.Proofs.Sequence.KnownLength
import XPathData.Proofs.Sequence.SizeHint
import XPathData.Proofs.Decimal.Division
import XPathData.Proofs.Atomic.Division
import XPathData.Proofs.Atomic.ResultType
import XPathData.Proofs.Atomic.Commutation
import XPathData.Proofs.Atomic.Subtraction
import XPathData.Proofs.Calendar.TimeLine
import XPathData.Proofs.Calendar.Months
import XPathData.Proofs.Calendar.Difference
import XPathData.Proofs.Calendar.Fragments
import XPathData.Proofs.Atomic.HexBinary
import XPathData.Proofs.Atomic.IntegerCast
import XPathData.Proofs.Library.Extremum
import XPathData.Proofs.Atomic.ImplicitZone
import XPathData.Proofs.Calendar.ClockGrammar
import XPathData.Proofs.Atomic.TemporalLiteral
import XPathData.Proofs.Decimal.Fitting
import XPathData.Proofs.Duration.Grammar
import XPathData.Proofs.Atomic.BinaryCodec
import XPathData.Proofs.Sequence.NameCast
import XPathData.Proofs.Atomic.NameGrammar
import XPathData.Proofs.Tree.Namespaces
import XPathData.Proofs.Function.Resolution
import XPathData.Proofs.Regex.Replacement
import XPathData.Proofs.Tree.Branches
import XPathData.Proofs.Tree.Repetition
import XPathData.Proofs.Library.Position
import XPathData.Proofs.Regex.Division
import XPathData.Proofs.Library.Matching
import XPathData.Proofs.Error.CodeText
import XPathData.Proofs.Bytewise.Replacement
