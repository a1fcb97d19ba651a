import Reckoner.Binary64.Basic
import Reckoner.Binary64.Nearest
import Reckoner.Binary64.Shortest
import Reckoner.Binary64.Whole
import Reckoner.Builtin.Argument
import Reckoner.Builtin.Basic
import Reckoner.Builtin.Call
import Reckoner.Builtin.Math
import Reckoner.Console.Backspace
import Reckoner.Console.Invocation
import Reckoner.Console.Prompt
import Reckoner.Console.Script
import Reckoner.Decimal.Basic
import Reckoner.Decimal.Layout
import Reckoner.Environment
import Reckoner.Evaluation
import Reckoner.Evaluation.Error
import Reckoner.Evaluation.Operator
import Reckoner.Expr
import Reckoner.Help
import Reckoner.Integer
import Reckoner.Json
import Reckoner.Main
import Reckoner.Numeral
import Reckoner.Proofs.Assignment
import Reckoner.Proofs.Binary64
import Reckoner.Proofs.BoundedParsing
import Reckoner.Proofs.CitedNames
import Reckoner.Proofs.Comparison
import Reckoner.Proofs.CorrectPrefix
import Reckoner.Proofs.Decimal
import Reckoner.Proofs.Equality
import Reckoner.Proofs.ErrorLines
import Reckoner.Proofs.ExactArithmetic
import Reckoner.Proofs.ExactSpans
import Reckoner.Proofs.Extreme
import Reckoner.Proofs.FiniteQuotient
import Reckoner.Proofs.FiniteResults
import Reckoner.Proofs.FirstEnd
import Reckoner.Proofs.FirstFault
import Reckoner.Proofs.FrontEnds
import Reckoner.Proofs.Grammar
import Reckoner.Proofs.Grammar.Relocation
import Reckoner.Proofs.Independence
import Reckoner.Proofs.Integer
import Reckoner.Proofs.Json.Formatter
import Reckoner.Proofs.Json.Grammar
import Reckoner.Proofs.Json.Lossless
import Reckoner.Proofs.Layout
import Reckoner.Proofs.Lexing.Fault
import Reckoner.Proofs.Lexing.Line
import Reckoner.Proofs.Lexing.Slice
import Reckoner.Proofs.Lexing.Word
import Reckoner.Proofs.MonotoneRounding
import Reckoner.Proofs.Nearest
import Reckoner.Proofs.NumberOrder
import Reckoner.Proofs.Numerals
import Reckoner.Proofs.PairLines
import Reckoner.Proofs.Parsing.Failure
import Reckoner.Proofs.Parsing.Machine
import Reckoner.Proofs.Parsing.Operand
import Reckoner.Proofs.Parsing.Operator
import Reckoner.Proofs.Parsing.Relocation
import Reckoner.Proofs.Parsing.Simulation
import Reckoner.Proofs.Power
import Reckoner.Proofs.Progress
import Reckoner.Proofs.Quoted
import Reckoner.Proofs.Reachable
import Reckoner.Proofs.Reading
import Reckoner.Proofs.ReadingBack
import Reckoner.Proofs.Recognition
import Reckoner.Proofs.Replay
import Reckoner.Proofs.Script
import Reckoner.Proofs.Shortest
import Reckoner.Proofs.Substitution
import Reckoner.Proofs.TextLiterals
import Reckoner.Proofs.Tiling
import Reckoner.Proofs.Tree
import Reckoner.Proofs.UniqueDisplay
import Reckoner.Session.Basic
import Reckoner.Session.Request
import Reckoner.Span
import Reckoner.Statement.Parser
import Reckoner.Text.Blank
import Reckoner.Text.Case
import Reckoner.Text.Case.Context
import Reckoner.Text.Case.Lower
import Reckoner.Text.Case.Run
import Reckoner.Text.Case.Upper
import Reckoner.Text.Cluster
import Reckoner.Text.Cluster.Class
import Reckoner.Text.Cluster.Conjunct
import Reckoner.Text.Cluster.Pictograph
import Reckoner.Text.Cluster.SpacingMark
import Reckoner.Text.CodePoints
import Reckoner.Text.GraphemeExtend
import Reckoner.Text.Ignorable
import Reckoner.Text.Line
import Reckoner.Text.Quoted
import Reckoner.Text.Unprintable
import Reckoner.Token.Basic
import Reckoner.Token.Lexer
import Reckoner.Token.Line
import Reckoner.Truth
import Reckoner.Value.Basic
import Reckoner.Value.Display
import Reckoner.Value.Json
