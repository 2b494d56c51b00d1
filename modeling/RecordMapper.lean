import RecordMapper.Action
import RecordMapper.Binary.Format
import RecordMapper.Binary.Layout
import RecordMapper.Binary.Number
import RecordMapper.Binary.Numeral
import RecordMapper.Binary.Power
import RecordMapper.Binary.Shortest
import RecordMapper.Binary.Significant
import RecordMapper.Binding
import RecordMapper.ColumnKind
import RecordMapper.Connection
import RecordMapper.Database
import RecordMapper.Declaration.Basic
import RecordMapper.Declaration.Check
import RecordMapper.Declaration.Constant
import RecordMapper.Declaration.FieldShape
import RecordMapper.Declaration.TableName
import RecordMapper.Declaration.Token
import RecordMapper.Declaration.Token.Natural
import RecordMapper.Declaration.Token.Reading
import RecordMapper.Declaration.Token.Scan
import RecordMapper.Declaration.TypeExpr
import RecordMapper.Declaration.TypeReading
import RecordMapper.Delegate.Basic
import RecordMapper.Delegate.Bracketed
import RecordMapper.Delegate.Standard
import RecordMapper.Dialect
import RecordMapper.Engine.Affinity
import RecordMapper.Engine.Arithmetic
import RecordMapper.Engine.Connection
import RecordMapper.Engine.Failure
import RecordMapper.Engine.Formula
import RecordMapper.Engine.Function
import RecordMapper.Engine.Grammar
import RecordMapper.Engine.Grammar.Query
import RecordMapper.Engine.Grammar.Reading
import RecordMapper.Engine.Instruction
import RecordMapper.Engine.Lexeme
import RecordMapper.Engine.Location
import RecordMapper.Engine.Opening
import RecordMapper.Engine.Pattern
import RecordMapper.Engine.Program
import RecordMapper.Engine.Relation
import RecordMapper.Engine.Scope
import RecordMapper.Engine.Selecting
import RecordMapper.Engine.Setting
import RecordMapper.Engine.Statement
import RecordMapper.Engine.Storage
import RecordMapper.Error
import RecordMapper.Error.Code
import RecordMapper.Identifier
import RecordMapper.Named
import RecordMapper.Query.Builder
import RecordMapper.Query.Cursor
import RecordMapper.Query.Draft
import RecordMapper.Query.Expr
import RecordMapper.Query.Generation
import RecordMapper.Query.JoinClause
import RecordMapper.Query.Merge
import RecordMapper.Query.State
import RecordMapper.Query.Table
import RecordMapper.Record.Basic
import RecordMapper.Record.Hydration
import RecordMapper.Record.Key
import RecordMapper.Record.Structure
import RecordMapper.Row
import RecordMapper.Scripted
import RecordMapper.Text.Hexadecimal
import RecordMapper.Text.LetterCase
import RecordMapper.Text.Quoted
import RecordMapper.Text.Utf8
import RecordMapper.Transaction
import RecordMapper.Value.Basic
import RecordMapper.Value.Native
import RecordMapper.Proofs.Action
import RecordMapper.Proofs.Sql.Token
import RecordMapper.Proofs.Sql.Phrase
import RecordMapper.Proofs.Query.Writing
import RecordMapper.Proofs.Sql.Sentence
import RecordMapper.Proofs.Query.Selecting
import RecordMapper.Proofs.Query.Changing
import RecordMapper.Proofs.Query.Generating
import RecordMapper.Proofs.Query.Sentences
import RecordMapper.Proofs.Query.Bindings
import RecordMapper.Proofs.Query.Building
import RecordMapper.Proofs.Sql.OrderTerm
import RecordMapper.Proofs.Query.Ordering
import RecordMapper.Proofs.Sql.Alias
import RecordMapper.Proofs.Query.Mention
import RecordMapper.Proofs.Query.Attaching
import RecordMapper.Proofs.Query.Scoping
import RecordMapper.Proofs.Query.WellScoped
import RecordMapper.Proofs.Query.Layering
import RecordMapper.Proofs.Sql.Shape
import RecordMapper.Proofs.Sql.Condition
import RecordMapper.Proofs.Sql.Evaluation
import RecordMapper.Proofs.Query.Sample
import RecordMapper.Proofs.Connection.Answering
import RecordMapper.Proofs.Connection.Replying
import RecordMapper.Proofs.Query.Purity
import RecordMapper.Proofs.Query.Stages
import RecordMapper.Proofs.Query.Opening
import RecordMapper.Proofs.Query.Feeding
import RecordMapper.Proofs.Query.Iterating
import RecordMapper.Proofs.Query.Counting
import RecordMapper.Proofs.Query.Merging
import RecordMapper.Proofs.Query.Keying
import RecordMapper.Proofs.Query.Departing
import RecordMapper.Proofs.Query.Hydrating
import RecordMapper.Proofs.Agreement
import RecordMapper.Proofs.Query.Likeness
import RecordMapper.Proofs.Query.Revaluing
import RecordMapper.Proofs.Sql.Naming
import RecordMapper.Proofs.Sql.Quotation
import RecordMapper.Proofs.Query.Naming
import RecordMapper.Proofs.Query.Resolving
import RecordMapper.Proofs.Connection.Performing
import RecordMapper.Proofs.Query.Inserting
import RecordMapper.Proofs.Record.Unfolding
import RecordMapper.Proofs.Sql.TableCommand
import RecordMapper.Proofs.Transaction
import RecordMapper.Proofs.Record.Creating
import RecordMapper.Proofs.Value.Integer
import RecordMapper.Proofs.Value.Storing
import RecordMapper.Proofs.Record.Recovering
import RecordMapper.Proofs.Engine.Stepping
import RecordMapper.Proofs.Engine.Transacting
import RecordMapper.Proofs.Query.Failing
import RecordMapper.Proofs.Query.Registering
import RecordMapper.Proofs.Transaction.Nesting
import RecordMapper.Proofs.Query.Determinacy
import RecordMapper.Proofs.Sql.Symbol
import RecordMapper.Proofs.Sql.Translation
import RecordMapper.Proofs.Query.Translating
import RecordMapper.Proofs.Identifier
import RecordMapper.Proofs.Declaration.Accepting
import RecordMapper.Proofs.Query.Closing
import RecordMapper.Proofs.Record.Checking
import RecordMapper.Proofs.Query.Interleaving
import RecordMapper.Proofs.Record.Indexing
import RecordMapper.Proofs.Sql.JoinLine
import RecordMapper.Proofs.Query.Forcing
import RecordMapper.Proofs.Sql.Grouping
import RecordMapper.Proofs.Sql.Renumbering
import RecordMapper.Proofs.Query.Conjoining
import RecordMapper.Proofs.Engine.Rebinding
import RecordMapper.Proofs.Value.Denoting
import RecordMapper.Proofs.Query.Choosing
import RecordMapper.Proofs.Query.Scheduling
import RecordMapper.Proofs.Declaration.Naming
import RecordMapper.Proofs.Declaration.Literal
import RecordMapper.Proofs.Declaration.Shaping
import RecordMapper.Proofs.Sql.Window
import RecordMapper.Proofs.Record.Identifying
