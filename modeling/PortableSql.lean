import PortableSql.ArrayValue
import PortableSql.Calendar
import PortableSql.Calendar.Text
import PortableSql.Clause
import PortableSql.CommandLine
import PortableSql.CommandLine.Help
import PortableSql.CommandLine.Reader
import PortableSql.CommandLine.Run
import PortableSql.Config
import PortableSql.Config.Discovery
import PortableSql.Config.File
import PortableSql.Decimal.Binary
import PortableSql.Decimal.Shortest
import PortableSql.Decimal.Value
import PortableSql.Dialect
import PortableSql.Dialect.Spanner
import PortableSql.Error
import PortableSql.Form.Config
import PortableSql.Form.Decode
import PortableSql.Form.Encode
import PortableSql.Form.Leaf
import PortableSql.Form.TemporaryTable
import PortableSql.Fragment
import PortableSql.Json
import PortableSql.Json.Printer
import PortableSql.Json.Reader
import PortableSql.Json.Record
import PortableSql.Main
import PortableSql.NameMap
import PortableSql.Proofs.Accounting
import PortableSql.Proofs.Accumulation
import PortableSql.Proofs.Added
import PortableSql.Proofs.Agreement
import PortableSql.Proofs.ArithmeticTree
import PortableSql.Proofs.ArrayWidth
import PortableSql.Proofs.Bare
import PortableSql.Proofs.CalendarText
import PortableSql.Proofs.ChangeCondition
import PortableSql.Proofs.ColumnNames
import PortableSql.Proofs.CommentFree
import PortableSql.Proofs.CommentScan
import PortableSql.Proofs.ComparisonForm
import PortableSql.Proofs.ComposedNode
import PortableSql.Proofs.ComposedPiece
import PortableSql.Proofs.ComposedQuery
import PortableSql.Proofs.Composition
import PortableSql.Proofs.Condition
import PortableSql.Proofs.ConditionText
import PortableSql.Proofs.ConfigFile
import PortableSql.Proofs.ElementTest
import PortableSql.Proofs.Erasure
import PortableSql.Proofs.Existence
import PortableSql.Proofs.Failure
import PortableSql.Proofs.Family
import PortableSql.Proofs.Filter
import PortableSql.Proofs.FollowOn
import PortableSql.Proofs.FormReading
import PortableSql.Proofs.FormRoundTrip
import PortableSql.Proofs.HeadedNode
import PortableSql.Proofs.IntegerDivision
import PortableSql.Proofs.Junction
import PortableSql.Proofs.Lexeme
import PortableSql.Proofs.LineBreak
import PortableSql.Proofs.LiteralContents
import PortableSql.Proofs.LiteralReading
import PortableSql.Proofs.LiteralScan
import PortableSql.Proofs.Locality
import PortableSql.Proofs.Loosening
import PortableSql.Proofs.MarkTokens
import PortableSql.Proofs.MarkView
import PortableSql.Proofs.Meaning
import PortableSql.Proofs.MissingConstructs
import PortableSql.Proofs.NestedNode
import PortableSql.Proofs.NestedQuery
import PortableSql.Proofs.Nesting
import PortableSql.Proofs.Node
import PortableSql.Proofs.Notes
import PortableSql.Proofs.NumeralText
import PortableSql.Proofs.Offering
import PortableSql.Proofs.OperandStart
import PortableSql.Proofs.Outline
import PortableSql.Proofs.OwnCharacter
import PortableSql.Proofs.OwnContents
import PortableSql.Proofs.PatternEscape
import PortableSql.Proofs.Phrase
import PortableSql.Proofs.PhraseNode
import PortableSql.Proofs.PhraseQuery
import PortableSql.Proofs.Preservation
import PortableSql.Proofs.QueryHead
import PortableSql.Proofs.QueryScope
import PortableSql.Proofs.Refusal
import PortableSql.Proofs.Revision
import PortableSql.Proofs.RowExpansion
import PortableSql.Proofs.RowPhrase
import PortableSql.Proofs.RowSubquery
import PortableSql.Proofs.ScanToken
import PortableSql.Proofs.SessionCalls
import PortableSql.Proofs.Skeleton
import PortableSql.Proofs.Summarization
import PortableSql.Proofs.TableText
import PortableSql.Proofs.Template
import PortableSql.Proofs.TomlDocument
import PortableSql.Proofs.TomlText
import PortableSql.Proofs.Traversal
import PortableSql.Proofs.Truth
import PortableSql.Proofs.UnlockedConstruct
import PortableSql.Proofs.UnlockedRendering
import PortableSql.Proofs.Visit
import PortableSql.Proofs.WriterView
import PortableSql.Proofs.Writing
import PortableSql.Proofs.WrittenOperand
import PortableSql.Proofs.WrittenStatement
import PortableSql.Proofs.WrittenTree
import PortableSql.Render.Construct
import PortableSql.Render.Leaf
import PortableSql.Render.Names
import PortableSql.Render.Operand
import PortableSql.Render.Pattern
import PortableSql.Render.Piece
import PortableSql.Render.RowValue
import PortableSql.Render.Statement
import PortableSql.Render.Tree
import PortableSql.Rendering
import PortableSql.Session
import PortableSql.SqlType
import PortableSql.Syntax.Build
import PortableSql.Syntax.Operator
import PortableSql.Syntax.Query
import PortableSql.Syntax.Statement
import PortableSql.Syntax.Value
import PortableSql.TemporaryTable
import PortableSql.Text.Blank
import PortableSql.Text.Digits
import PortableSql.Text.Scan
import PortableSql.Toml
import PortableSql.Toml.Printer
import PortableSql.Toml.Reader
import PortableSql.Toml.Scalar
import PortableSql.UnknownName
import PortableSql.Writer
import PortableSql.Writer.Hooks
import PortableSql.Writer.Operand
import PortableSql.Writer.Statement
import PortableSql.Writer.Tree
