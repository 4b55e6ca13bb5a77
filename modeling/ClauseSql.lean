import ClauseSql.Main
import ClauseSql.Proofs.ClauseTruth
import ClauseSql.Proofs.MergeValue
import ClauseSql.Proofs.Shape
import ClauseSql.Proofs.Lexer
import ClauseSql.Proofs.Tokens
import ClauseSql.Proofs.Leaves
import ClauseSql.Proofs.Compilation
import ClauseSql.Proofs.HiddenColumns
import ClauseSql.Proofs.SelectText
import ClauseSql.Proofs.MergeText
import ClauseSql.Proofs.RoundTrip
import ClauseSql.Proofs.Placeholders
import ClauseSql.Proofs.WellFormed
import ClauseSql.Proofs.ReadYourWrite
import ClauseSql.Proofs.TwoRuns
import ClauseSql.Proofs.Chains
import ClauseSql.Proofs.InclusionDepth
import ClauseSql.Proofs.SharedCache
import ClauseSql.Proofs.Composition
import ClauseSql.Proofs.Trail
import ClauseSql.Proofs.FirstFault
import ClauseSql.Proofs.Disjunction
import ClauseSql.Proofs.OperandTypes
import ClauseSql.Proofs.Abbreviation
import ClauseSql.Proofs.Negation
import ClauseSql.Proofs.PathGrammar
import ClauseSql.Proofs.TextOperands
import ClauseSql.Proofs.NumericGuard
import ClauseSql.Proofs.Arrivals
import ClauseSql.Proofs.EmptyScope
import ClauseSql.Proofs.PathLiteral
import ClauseSql.Proofs.Selection
import ClauseSql.Proofs.Remainder
import ClauseSql.Proofs.OrderEntries
import ClauseSql.Proofs.EncodedFilter
import ClauseSql.Proofs.MergeLength
import ClauseSql.Proofs.PredicateDepth
import ClauseSql.Proofs.Quoting
import ClauseSql.Proofs.Spelling
import ClauseSql.Proofs.WrittenFilter
import ClauseSql.Proofs.Additions
