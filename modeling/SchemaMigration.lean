import SchemaMigration.Buffer
import SchemaMigration.Change
import SchemaMigration.Change.Draft
import SchemaMigration.ColumnType
import SchemaMigration.ColumnType.Declared
import SchemaMigration.CommandLine
import SchemaMigration.CommandLine.Arguments
import SchemaMigration.CommandLine.Console
import SchemaMigration.CommandLine.Markup
import SchemaMigration.CommandLine.Style
import SchemaMigration.CommandLine.Wrapping
import SchemaMigration.DependencyGraph
import SchemaMigration.Dialect
import SchemaMigration.Dialect.Profile
import SchemaMigration.Dialect.TypeName
import SchemaMigration.Difference
import SchemaMigration.Disk
import SchemaMigration.Disk.Path
import SchemaMigration.Emission
import SchemaMigration.Emission.Basic
import SchemaMigration.Emission.Mysql
import SchemaMigration.Emission.Postgres
import SchemaMigration.Emission.SqlServer
import SchemaMigration.Emission.Sqlite
import SchemaMigration.Failure
import SchemaMigration.Json.Basic
import SchemaMigration.Json.Decoder
import SchemaMigration.Json.Reader
import SchemaMigration.Json.Shown
import SchemaMigration.Json.Writer
import SchemaMigration.Main
import SchemaMigration.Migration
import SchemaMigration.OrderedMap
import SchemaMigration.Problem
import SchemaMigration.Run
import SchemaMigration.Schema
import SchemaMigration.Schema.Document
import SchemaMigration.Schema.Error
import SchemaMigration.Schema.Rules
import SchemaMigration.Session
import SchemaMigration.Snapshot
import SchemaMigration.Snapshot.Document
import SchemaMigration.Snapshot.Projection
import SchemaMigration.Sql.Call
import SchemaMigration.Sql.Constraint
import SchemaMigration.Sql.DataType
import SchemaMigration.Sql.Expression
import SchemaMigration.Sql.Grammar
import SchemaMigration.Sql.Keyword
import SchemaMigration.Sql.Name
import SchemaMigration.Sql.Operand
import SchemaMigration.Sql.Query
import SchemaMigration.Sql.Reader
import SchemaMigration.Sql.Scanner
import SchemaMigration.Sql.Signature
import SchemaMigration.Sql.Statement
import SchemaMigration.Sql.Token
import SchemaMigration.Sql.Tree
import SchemaMigration.Sqlite.Catalog
import SchemaMigration.Sqlite.CatalogSnapshot
import SchemaMigration.Sqlite.EnumCheck
import SchemaMigration.Statement
import SchemaMigration.Statement.Text
import SchemaMigration.Text.Abbreviation
import SchemaMigration.Text.Blank
import SchemaMigration.Text.Case
import SchemaMigration.Text.CellWidth
import SchemaMigration.Text.Decimal
import SchemaMigration.Text.Emoji
import SchemaMigration.Text.Emoji.Table
import SchemaMigration.Text.Integer
import SchemaMigration.Text.Numeral
import SchemaMigration.Text.Printable
import SchemaMigration.Text.Quoted
import SchemaMigration.Text.Shown
import SchemaMigration.Proofs.Buffer
import SchemaMigration.Proofs.DependencyGraph
import SchemaMigration.Proofs.PhaseOrder
import SchemaMigration.Proofs.WellFormed
import SchemaMigration.Proofs.Discovery
import SchemaMigration.Proofs.Replay
import SchemaMigration.Proofs.Midway
import SchemaMigration.Proofs.Equivalence
import SchemaMigration.Proofs.References
import SchemaMigration.Proofs.Alteration
import SchemaMigration.Proofs.Completeness
import SchemaMigration.Proofs.Sqlite.Database
import SchemaMigration.Proofs.Sqlite.Convergence
import SchemaMigration.Proofs.Sqlite.Rebuild
import SchemaMigration.Proofs.Sqlite.Mirror
import SchemaMigration.Proofs.Sqlite.HeldColumns
import SchemaMigration.Proofs.Sqlite.Enforcement
import SchemaMigration.Proofs.Run
import SchemaMigration.Proofs.Script
import SchemaMigration.Proofs.Outcome
import SchemaMigration.Proofs.Json
import SchemaMigration.Proofs.Disk
import SchemaMigration.Proofs.Result
import SchemaMigration.Proofs.Projection
import SchemaMigration.Proofs.DeclaredType
import SchemaMigration.Proofs.SnapshotFile
import SchemaMigration.Proofs.Settled
import SchemaMigration.Proofs.Reading
import SchemaMigration.Proofs.Validation
import SchemaMigration.Proofs.Cycle
import SchemaMigration.Proofs.Identifier
import SchemaMigration.Proofs.Skipping
import SchemaMigration.Proofs.Sorting
import SchemaMigration.Proofs.ColumnChanges
import SchemaMigration.Proofs.SqlServer
import SchemaMigration.Proofs.Postgres
import SchemaMigration.Proofs.Sqlite.Block
import SchemaMigration.Proofs.Sqlite.TypeName
import SchemaMigration.Proofs.Sqlite.TemporaryName
import SchemaMigration.Proofs.Sql.Scanning
import SchemaMigration.Proofs.Sql.Readers
import SchemaMigration.Proofs.Sql.Operands
import SchemaMigration.Proofs.Sqlite.TableTokens
import SchemaMigration.Proofs.Sqlite.ColumnReading
import SchemaMigration.Proofs.Sqlite.KeyReading
import SchemaMigration.Proofs.Sqlite.TableReading
import SchemaMigration.Proofs.Sqlite.EnumCheck
import SchemaMigration.Proofs.TableChanges
import SchemaMigration.Proofs.ForeignKeyChanges
import SchemaMigration.Proofs.ForeignKeyNames
import SchemaMigration.Proofs.Faults
import SchemaMigration.Proofs.IdentifierLength
import SchemaMigration.Proofs.ConstraintNames
import SchemaMigration.Proofs.Mysql.TableOptions
import SchemaMigration.Proofs.Mysql.ColumnCollations
import SchemaMigration.Proofs.TableIsolation
import SchemaMigration.Proofs.Sqlite.RowOrder
import SchemaMigration.Proofs.Sqlite.KeyOrder
import SchemaMigration.Proofs.Sqlite.TypeArguments
import SchemaMigration.Proofs.Mysql.EnumValues
import SchemaMigration.Proofs.HiddenMembers
import SchemaMigration.Proofs.Quoting
import SchemaMigration.Proofs.SchemaDocument
