import TagTemplate.Main
import TagTemplate.Proofs.Derivation
import TagTemplate.Proofs.Brackets
import TagTemplate.Proofs.Double.Bits
import TagTemplate.Proofs.Double.Decimal
import TagTemplate.Text.Utf8
import TagTemplate.Proofs.LineBreak
import TagTemplate.Proofs.Numeral
import TagTemplate.Proofs.WellFormed
import TagTemplate.Proofs.Lexemes
import TagTemplate.Proofs.Payloads
import TagTemplate.Proofs.WrittenTokens
import TagTemplate.Proofs.WrittenNumbers
import TagTemplate.Proofs.ParsedShape
import TagTemplate.Proofs.Equality
import TagTemplate.Proofs.RoundTrip
import TagTemplate.Proofs.ScopeLaws
import TagTemplate.Proofs.LexicalScope
import TagTemplate.Proofs.Decoding
import TagTemplate.Proofs.LexicalErrors
import TagTemplate.Proofs.SourceTiling
import TagTemplate.Proofs.Unwinding
import TagTemplate.Proofs.Unrolling
import TagTemplate.Proofs.Calls
import TagTemplate.Proofs.RelatedRuns
import TagTemplate.Proofs.ResponseProtocol
import TagTemplate.Proofs.Sequencing
import TagTemplate.Proofs.Composition
import TagTemplate.Proofs.ParameterScopes
import TagTemplate.Proofs.Lookahead
import TagTemplate.Proofs.Resumption
import TagTemplate.Proofs.ErrorSpans
import TagTemplate.Proofs.Truncation
import TagTemplate.Proofs.Concatenation
import TagTemplate.Proofs.Renaming
import TagTemplate.Proofs.OperandText
import TagTemplate.Proofs.EchoSteps
import TagTemplate.Proofs.Expression
import TagTemplate.Proofs.StackDepth
import TagTemplate.Proofs.HeadLines
import TagTemplate.Proofs.TokenBoundaries
import TagTemplate.Proofs.Placement
import TagTemplate.Proofs.TagBlanks
import TagTemplate.Proofs.CallDiscipline
import TagTemplate.Proofs.FailingEcho
import TagTemplate.Proofs.Double.Rounding
import TagTemplate.Proofs.NumberOrder
import TagTemplate.Proofs.WrappingArithmetic
import TagTemplate.Proofs.NumberTexts
import TagTemplate.Proofs.LiteralOperands
import TagTemplate.Proofs.Updates
import TagTemplate.Proofs.DecimalFormatting
import TagTemplate.Proofs.IndependentStacks
import TagTemplate.Proofs.OptionGroups
import TagTemplate.Proofs.ParameterChanges
import TagTemplate.Proofs.CharacterRanges
import TagTemplate.Proofs.VisitingOrder
