import MatrixLang.CommandLine
import MatrixLang.Diagnostic
import MatrixLang.Event
import MatrixLang.Grammar.Declaration
import MatrixLang.Grammar.Expected
import MatrixLang.Grammar.Expression
import MatrixLang.Grammar.Guarded
import MatrixLang.Grammar.Statement
import MatrixLang.Grammar.Ty
import MatrixLang.Main
import MatrixLang.Numeral.Decimal
import MatrixLang.Numeral.Integer
import MatrixLang.Numeral.ReadBack
import MatrixLang.Numeral.Shortest
import MatrixLang.Numeral.Single
import MatrixLang.Outline.Basic
import MatrixLang.Outline.Syntax
import MatrixLang.Parser.Basic
import MatrixLang.Parser.Cursor
import MatrixLang.Parser.Guarded
import MatrixLang.Parser.Run
import MatrixLang.Parsing
import MatrixLang.Position
import MatrixLang.Proofs.Acceptance
import MatrixLang.Proofs.Completeness.Declaration
import MatrixLang.Proofs.Completeness.Expression
import MatrixLang.Proofs.Completeness.Statement
import MatrixLang.Proofs.Concatenation
import MatrixLang.Proofs.Contract
import MatrixLang.Proofs.Declaring
import MatrixLang.Proofs.Ebnf
import MatrixLang.Proofs.EndOfStream
import MatrixLang.Proofs.ErrorPoint
import MatrixLang.Proofs.Events.Log
import MatrixLang.Proofs.Events.Quiet
import MatrixLang.Proofs.Events.Reports
import MatrixLang.Proofs.ExpressionText
import MatrixLang.Proofs.Indentation
import MatrixLang.Proofs.IntegerLiterals
import MatrixLang.Proofs.Lines
import MatrixLang.Proofs.Movement
import MatrixLang.Proofs.Numerals.Canonical
import MatrixLang.Proofs.Numerals.Float
import MatrixLang.Proofs.Numerals.Integer
import MatrixLang.Proofs.OnDemand
import MatrixLang.Proofs.Parses
import MatrixLang.Proofs.Placement.Module
import MatrixLang.Proofs.Placement.Outline
import MatrixLang.Proofs.Placement.Syntax
import MatrixLang.Proofs.Precedence.Parsing
import MatrixLang.Proofs.Precedence.Table
import MatrixLang.Proofs.Printing.Declaration
import MatrixLang.Proofs.Printing.Erase
import MatrixLang.Proofs.Printing.Expression
import MatrixLang.Proofs.Printing.Pieces
import MatrixLang.Proofs.Printing.Printable
import MatrixLang.Proofs.Printing.Statement
import MatrixLang.Proofs.Progress
import MatrixLang.Proofs.Reading.Declaration
import MatrixLang.Proofs.Reading.Expression
import MatrixLang.Proofs.Reading.Statement
import MatrixLang.Proofs.Refusals
import MatrixLang.Proofs.Relabeling.Grammar
import MatrixLang.Proofs.Relabeling.Parsers
import MatrixLang.Proofs.Relabeling.Parsing
import MatrixLang.Proofs.Relabeling.Trees
import MatrixLang.Proofs.Rendering
import MatrixLang.Proofs.Reuse
import MatrixLang.Proofs.RoundTrip
import MatrixLang.Proofs.Runs
import MatrixLang.Proofs.Scanning.Classes
import MatrixLang.Proofs.Scanning.Layout
import MatrixLang.Proofs.Scanning.Lexemes
import MatrixLang.Proofs.Scanning.LongestMatch
import MatrixLang.Proofs.Scanning.Order
import MatrixLang.Proofs.Scanning.Place
import MatrixLang.Proofs.Scanning.Source
import MatrixLang.Proofs.Scanning.Spelling
import MatrixLang.Proofs.Scanning.Steps
import MatrixLang.Proofs.Scanning.Trivia
import MatrixLang.Proofs.SingleExpression
import MatrixLang.Proofs.Soundness.Declaration
import MatrixLang.Proofs.Soundness.Expression
import MatrixLang.Proofs.Soundness.Statement
import MatrixLang.Proofs.Subtrees
import MatrixLang.Proofs.Takes
import MatrixLang.Proofs.WellFormed
import MatrixLang.Proofs.Words.Expression
import MatrixLang.Proofs.Words.Spans
import MatrixLang.Proofs.Words.Statement
import MatrixLang.Scanner
import MatrixLang.Syntax.Expr
import MatrixLang.Syntax.ExprEq
import MatrixLang.Syntax.Level
import MatrixLang.Syntax.Module
import MatrixLang.Syntax.Operator
import MatrixLang.Syntax.Stmt
import MatrixLang.Syntax.StmtEq
import MatrixLang.Syntax.Ty
import MatrixLang.Text.Basic
import MatrixLang.Text.Character
import MatrixLang.Token.Basic
import MatrixLang.Token.Kind
import MatrixLang.Token.Lexeme
