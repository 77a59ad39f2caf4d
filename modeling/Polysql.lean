import Polysql.Calendar
import Polysql.Catalog
import Polysql.DataType
import Polysql.Dialect
import Polysql.Dialect.Feature
import Polysql.Dialect.Literal
import Polysql.Dialect.Set
import Polysql.Dialect.TypeName
import Polysql.Draft
import Polysql.Draft.Block
import Polysql.Draft.Call
import Polysql.Draft.Change
import Polysql.Draft.Condition
import Polysql.Draft.Definition
import Polysql.Draft.Expr
import Polysql.Draft.Guard
import Polysql.Draft.Insert
import Polysql.Draft.Join
import Polysql.Draft.Limit
import Polysql.Draft.Name
import Polysql.Draft.Scope
import Polysql.Draft.Select
import Polysql.Draft.Statement
import Polysql.Draft.Table
import Polysql.Error
import Polysql.Evaluation
import Polysql.Evaluation.Arithmetic
import Polysql.Evaluation.Cast
import Polysql.Evaluation.Function
import Polysql.Evaluation.Pattern
import Polysql.Evaluation.Truth
import Polysql.Func
import Polysql.Name
import Polysql.Number.Binary64
import Polysql.Number.Decimal
import Polysql.Number.FloatText
import Polysql.Number.Power
import Polysql.Number.Reading
import Polysql.Number.Shortest
import Polysql.Operator
import Polysql.Proofs.Catalog.Identity
import Polysql.Proofs.Catalog.Lookup
import Polysql.Proofs.Catalog.Relation
import Polysql.Proofs.Draft.Expr
import Polysql.Proofs.Draft.Manner
import Polysql.Proofs.Draft.Query
import Polysql.Proofs.Draft.Statement
import Polysql.Proofs.Evaluation.Bitwise
import Polysql.Proofs.Evaluation.Bounds
import Polysql.Proofs.Evaluation.Capture
import Polysql.Proofs.Evaluation.Descent
import Polysql.Proofs.Evaluation.Detour
import Polysql.Proofs.Evaluation.Extreme
import Polysql.Proofs.Evaluation.Filtered
import Polysql.Proofs.Evaluation.Flat
import Polysql.Proofs.Evaluation.IgnoredCase
import Polysql.Proofs.Evaluation.Junction
import Polysql.Proofs.Evaluation.Like
import Polysql.Proofs.Evaluation.LongList
import Polysql.Proofs.Evaluation.Negation
import Polysql.Proofs.Evaluation.Overflow
import Polysql.Proofs.Evaluation.Padded
import Polysql.Proofs.Evaluation.Panic
import Polysql.Proofs.Evaluation.Reference
import Polysql.Proofs.Evaluation.Row
import Polysql.Proofs.Evaluation.RowInQuery
import Polysql.Proofs.Evaluation.RowOrder
import Polysql.Proofs.Evaluation.TruthWord
import Polysql.Proofs.Formatter.Level
import Polysql.Proofs.Joining.Hoisted
import Polysql.Proofs.Joining.Natural
import Polysql.Proofs.Joining.Query
import Polysql.Proofs.Joining.Rows
import Polysql.Proofs.Limit.Clause
import Polysql.Proofs.Limit.Columns
import Polysql.Proofs.Limit.Window
import Polysql.Proofs.Name
import Polysql.Proofs.Outcome
import Polysql.Proofs.Place.Descent
import Polysql.Proofs.Place.Expr
import Polysql.Proofs.Place.Level
import Polysql.Proofs.Place.Move
import Polysql.Proofs.Place.Operand
import Polysql.Proofs.Place.Query
import Polysql.Proofs.Place.Statement
import Polysql.Proofs.Place.Subquery
import Polysql.Proofs.Place.Surrounded
import Polysql.Proofs.Procedure.Block
import Polysql.Proofs.Procedure.DollarQuoted
import Polysql.Proofs.Procedure.Guard
import Polysql.Proofs.Procedure.WholeTable
import Polysql.Proofs.Rank.Expr
import Polysql.Proofs.Rank.Query
import Polysql.Proofs.Rank.Statement
import Polysql.Proofs.Reading.Combination
import Polysql.Proofs.Reading.Compound
import Polysql.Proofs.Reading.Condition
import Polysql.Proofs.Reading.Drafted
import Polysql.Proofs.Reading.Expr
import Polysql.Proofs.Reading.Fragment
import Polysql.Proofs.Reading.Guarded
import Polysql.Proofs.Reading.Meaning
import Polysql.Proofs.Reading.Operand
import Polysql.Proofs.Reading.Predicate
import Polysql.Proofs.Reading.Rank
import Polysql.Proofs.Reading.Readable
import Polysql.Proofs.Reading.Reader
import Polysql.Proofs.Reading.Token
import Polysql.Proofs.Reading.Tree
import Polysql.Proofs.Reading.Written
import Polysql.Proofs.Rows.Assigned
import Polysql.Proofs.Rows.Declared
import Polysql.Proofs.Rows.Inserted
import Polysql.Proofs.Rows.Union
import Polysql.Proofs.Text.Case
import Polysql.Proofs.Text.Delimited
import Polysql.Proofs.Text.Embedded
import Polysql.Proofs.Text.Numeral
import Polysql.Proofs.Text.Occurrence
import Polysql.Proofs.Text.Repeated
import Polysql.Proofs.Value.Arithmetic
import Polysql.Proofs.Value.Cast
import Polysql.Proofs.Value.Consistent
import Polysql.Proofs.Value.Distinct
import Polysql.Proofs.Value.Integer
import Polysql.Proofs.Value.Order
import Polysql.Proofs.Value.Transitive
import Polysql.Proofs.Writing.Delimited
import Polysql.Proofs.Writing.Layout
import Polysql.Proofs.Writing.Named
import Polysql.Proofs.Writing.Shed
import Polysql.Proofs.Writing.Spelling
import Polysql.Proofs.Writing.Text
import Polysql.Proofs.Writing.Unbound
import Polysql.Query
import Polysql.Query.Build
import Polysql.Query.Columns
import Polysql.Query.Expansion
import Polysql.Query.KeyJoin
import Polysql.Query.Rank
import Polysql.Query.Rows
import Polysql.Query.Typing
import Polysql.Render
import Polysql.Settings
import Polysql.Statement
import Polysql.Statement.Rank
import Polysql.Text.Ascii
import Polysql.Text.Blank
import Polysql.Text.Case
import Polysql.Text.CaseTable
import Polysql.Text.DollarTag
import Polysql.Text.HiddenTable
import Polysql.Text.Quoted
import Polysql.Text.Search
import Polysql.Value
import Polysql.Value.Order
import Polysql.Writing
import Polysql.Writing.Identifier
import Polysql.Writing.Parameter
