import Minispec.Main
import Minispec.Proofs.FloatText
import Minispec.Proofs.Subtrees
import Minispec.Proofs.NotationTokens
import Minispec.Proofs.NotationRoundTrip
import Minispec.Proofs.DirectConversion
import Minispec.Proofs.StubReading
import Minispec.Proofs.ClassOutline
import Minispec.Proofs.Convertible
import Minispec.Proofs.FixedPoints
import Minispec.Proofs.Rerun
import Minispec.Proofs.QualifierOrder
import Minispec.Proofs.NotationGrammar
import Minispec.Proofs.GrammarLexemes
import Minispec.Proofs.RecursiveDescent
import Minispec.Proofs.ReadBack
import Minispec.Proofs.TextConversion
import Minispec.Proofs.DepthBound
import Minispec.Proofs.RuleLog
import Minispec.Proofs.DispatchOrder
import Minispec.Proofs.Statistics
import Minispec.Proofs.StrictNames
import Minispec.Proofs.Batches
import Minispec.Proofs.TestLineages
import Minispec.Proofs.RailsMetadata
import Minispec.Proofs.JsonText
import Minispec.Proofs.JsonTrees
import Minispec.Proofs.StatementPieces
import Minispec.Proofs.PassThrough
import Minispec.Proofs.NestedDispatch
import Minispec.Proofs.StubMeaning
import Minispec.Proofs.ReceiverCalls
import Minispec.Proofs.StatementReading
import Minispec.Proofs.ClassStatements
import Minispec.Proofs.RuleOrder
import Minispec.Proofs.ReadingFailures
import Minispec.Proofs.TextSurroundings
