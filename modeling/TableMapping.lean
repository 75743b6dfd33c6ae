import TableMapping.Adapter
import TableMapping.Calendar.Date
import TableMapping.Calendar.Time
import TableMapping.Column
import TableMapping.Config
import TableMapping.Declaration.Attribute
import TableMapping.Declaration.ConstantName
import TableMapping.Declaration.Field
import TableMapping.Declaration.Options
import TableMapping.Declaration.Path
import TableMapping.Declaration.Reader
import TableMapping.Declaration.Token
import TableMapping.Enumeration
import TableMapping.Error
import TableMapping.FieldType
import TableMapping.FieldValue
import TableMapping.Json.Basic
import TableMapping.Json.Parser
import TableMapping.Json.Printer
import TableMapping.Labelled
import TableMapping.Model.DataType
import TableMapping.Model.Definition
import TableMapping.Model.Record
import TableMapping.Model.Schema
import TableMapping.Model.Shown
import TableMapping.Number.FixedPoint
import TableMapping.Number.FloatText
import TableMapping.Number.Numeral
import TableMapping.Number.Shortest
import TableMapping.Proofs.Calendar.Date
import TableMapping.Proofs.Calendar.Time
import TableMapping.Proofs.Declaration.FieldAttributes
import TableMapping.Proofs.Declaration.FieldSort
import TableMapping.Proofs.Enumeration.CutName
import TableMapping.Proofs.Enumeration.NameMatching
import TableMapping.Proofs.Enumeration.NameReading
import TableMapping.Proofs.Json.Document
import TableMapping.Proofs.Json.Scalar
import TableMapping.Proofs.Model.Definition
import TableMapping.Proofs.Model.FieldForm
import TableMapping.Proofs.Model.IndexNames
import TableMapping.Proofs.Model.Invariant
import TableMapping.Proofs.Model.RegistryAgreement
import TableMapping.Proofs.Model.RoundTrip
import TableMapping.Proofs.Model.Selection
import TableMapping.Proofs.Number.FixedPoint
import TableMapping.Proofs.Number.Numeral
import TableMapping.Proofs.Number.SignedNumeral
import TableMapping.Proofs.Query.Binding
import TableMapping.Proofs.Query.Chain
import TableMapping.Proofs.Query.Issuing
import TableMapping.Proofs.Query.Literals
import TableMapping.Proofs.Query.Resolution
import TableMapping.Proofs.Query.RowReading
import TableMapping.Proofs.Query.SelectList
import TableMapping.Proofs.Query.Stepping
import TableMapping.Proofs.Query.StoredComparison
import TableMapping.Proofs.Runs
import TableMapping.Proofs.Session.Conduct
import TableMapping.Proofs.Session.Counting
import TableMapping.Proofs.Session.Creation
import TableMapping.Proofs.Session.Definition
import TableMapping.Proofs.Session.FirstObject
import TableMapping.Proofs.Session.Gate
import TableMapping.Proofs.Session.History
import TableMapping.Proofs.Session.IndexCreation
import TableMapping.Proofs.Session.Issuing
import TableMapping.Proofs.Session.Life
import TableMapping.Proofs.Session.Merge
import TableMapping.Proofs.Session.MergeCount
import TableMapping.Proofs.Session.MissingTable
import TableMapping.Proofs.Session.Nesting
import TableMapping.Proofs.Session.NewRow
import TableMapping.Proofs.Session.Preparation
import TableMapping.Proofs.Session.RefusedWrite
import TableMapping.Proofs.Session.RepeatedUpgrade
import TableMapping.Proofs.Session.Run
import TableMapping.Proofs.Session.SessionSequence
import TableMapping.Proofs.Session.StoredVersions
import TableMapping.Proofs.Session.VersionCheck
import TableMapping.Proofs.Session.VersionRecords
import TableMapping.Proofs.Sql.AdapterCalls
import TableMapping.Proofs.Sql.Binding
import TableMapping.Proofs.Sql.ColumnType
import TableMapping.Proofs.Sql.Command
import TableMapping.Proofs.Sql.ConditionReading
import TableMapping.Proofs.Sql.ConditionText
import TableMapping.Proofs.Sql.Conversion
import TableMapping.Proofs.Sql.CreateIndex
import TableMapping.Proofs.Sql.CreateTable
import TableMapping.Proofs.Sql.DefaultReading
import TableMapping.Proofs.Sql.FixedText
import TableMapping.Proofs.Sql.InsertRow
import TableMapping.Proofs.Sql.KeyColumns
import TableMapping.Proofs.Sql.KeyLookup
import TableMapping.Proofs.Sql.ListEntries
import TableMapping.Proofs.Sql.Literal
import TableMapping.Proofs.Sql.MergePlan
import TableMapping.Proofs.Sql.MergeRow
import TableMapping.Proofs.Sql.Paging
import TableMapping.Proofs.Sql.Placeholder
import TableMapping.Proofs.Sql.Question
import TableMapping.Proofs.Sql.Quoting
import TableMapping.Proofs.Sql.Spelling
import TableMapping.Proofs.Sql.Table
import TableMapping.Proofs.Sql.Token
import TableMapping.Proofs.Sql.WriteByKey
import TableMapping.Proofs.Sql.Writing
import TableMapping.Proofs.Text.Blank
import TableMapping.Proofs.Text.ColumnList
import TableMapping.Proofs.Uuid
import TableMapping.Proofs.Value.ColumnForm
import TableMapping.Proofs.Value.CutText
import TableMapping.Proofs.Value.DriverShape
import TableMapping.Proofs.Value.JsonText
import TableMapping.Proofs.Value.NullKind
import TableMapping.Proofs.Value.Projection
import TableMapping.Proofs.Value.StoredForm
import TableMapping.Proofs.Value.Unquoted
import TableMapping.Proofs.Value.WholeNumber
import TableMapping.Query.Alias
import TableMapping.Query.Query
import TableMapping.Query.Step
import TableMapping.Registry
import TableMapping.Session.Basic
import TableMapping.Session.Engine
import TableMapping.Session.Operation
import TableMapping.Session.VersionRecord
import TableMapping.Settings
import TableMapping.Sql.Condition
import TableMapping.Sql.Create
import TableMapping.Sql.Dialect
import TableMapping.Sql.Identifier
import TableMapping.Sql.Notice
import TableMapping.Sql.Statement
import TableMapping.Sql.Write
import TableMapping.Text.Blank
import TableMapping.Text.Hex
import TableMapping.Text.LetterCase
import TableMapping.Text.NameChars
import TableMapping.Text.Printable
import TableMapping.Text.Quoted
import TableMapping.Toml.Basic
import TableMapping.Toml.Moment
import TableMapping.Toml.Parser
import TableMapping.Toml.Scalar
import TableMapping.Toml.Text
import TableMapping.Uuid
import TableMapping.Value.Basic
import TableMapping.Value.Coercion
import TableMapping.Value.Document
