import TableMapping.Model.Definition
import TableMapping.Sql.Identifier
import TableMapping.Sql.Notice

/-!
# Dialects

The engines a statement can be written for, and where they differ: quoting, placeholders,
the spelling of data types, generated keys, indexes, paging, and how an object is merged
into a table.
-/

namespace TableMapping

/-- The supported engines; the standard one is used for every engine that is not known. -/
inductive Dialect where
  | ansi
  | h2
  | mySql
  | postgres
  | sqlite
  deriving DecidableEq, Repr

instance : Labelled Dialect where
  label
    | .ansi => "Ansi"
    | .h2 => "H2"
    | .mySql => "MySql"
    | .postgres => "Postgres"
    | .sqlite => "Sqlite"
  all := [.ansi, .h2, .mySql, .postgres, .sqlite]
  find_label d := by cases d <;> decide

/-- How an engine inserts an object or updates the one with the same key. -/
inductive MergeStrategy where
  /-- `MERGE INTO t (…) KEY(…) VALUES(…)`. -/
  | mergeKey
  /-- `INSERT OR REPLACE INTO t (…) VALUES(…)`. -/
  | insertOrReplace
  /-- `INSERT … ON DUPLICATE KEY UPDATE c = VALUES(c)`. -/
  | onDuplicateKeyUpdate
  /-- `INSERT … ON CONFLICT(…) DO UPDATE SET c = EXCLUDED.c`. -/
  | onConflictDoUpdate
  /-- Count by key, then update or insert. -/
  | emulated
  deriving DecidableEq, Repr

instance : Labelled MergeStrategy where
  label
    | .mergeKey => "MergeKey"
    | .insertOrReplace => "InsertOrReplace"
    | .onDuplicateKeyUpdate => "OnDuplicateKeyUpdate"
    | .onConflictDoUpdate => "OnConflictDoUpdate"
    | .emulated => "Emulated"
  all := [.mergeKey, .insertOrReplace, .onDuplicateKeyUpdate, .onConflictDoUpdate, .emulated]
  find_label s := by cases s <;> decide

/-- The data type of a generated key and the clause behind it. -/
structure AutoIncrement where
  dataType : String
  clause : Option String
  deriving DecidableEq

namespace IndexKind

/-- Whether an index forbids repeated entries. -/
def isUnique : IndexKind → Bool
  | unique | uniqueHash => true
  | standard | hash => false

/-- Whether an index is asked to be organised by hash values. -/
def asksForHash : IndexKind → Bool
  | hash | uniqueHash => true
  | standard | unique => false

end IndexKind

namespace Dialect

/-- The name of an engine. -/
def name : Dialect → String
  | ansi => "ANSI"
  | h2 => "H2"
  | mySql => "MySQL"
  | postgres => "PostgreSQL"
  | sqlite => "SQLite"

/-- The engine behind a product name. -/
def detect (product : String) : Dialect :=
  let lower := (Text.asciiLower product).toList
  let mentions := fun word : String => Text.occursIn word.toList lower
  if mentions "h2" then h2
  else if mentions "mysql" || mentions "mariadb" then mySql
  else if mentions "postgres" then postgres
  else if mentions "sqlite" then sqlite
  else ansi

/-- The character that quotes identifiers, where they are quoted. -/
def identifierQuote? : Dialect → Option Char
  | mySql => some '\x60'
  | postgres => some '"'
  | _ => none

/-- An identifier as the engine wants it. -/
def identifier (d : Dialect) (name : String) : String :=
  match d.identifierQuote? with
  | some q => Sql.quotedIdentifier q name
  | none => name

/-- A table with its schema; the empty schema counts as none. -/
def qualified (d : Dialect) (schema : Option String) (table : String) : String :=
  match schema.filter fun s => !s.isEmpty with
  | some s => d.identifier s ++ "." ++ d.identifier table
  | none => d.identifier table

/-- The placeholder of the parameter at a position, counted from one. -/
def placeholder (d : Dialect) (position : Nat) : String :=
  match d with
  | postgres => "$" ++ Numeral.ofNat position
  | _ => "?"

/-- The engine's spelling of a data type. -/
def spellDataType (d : Dialect) (dataType : String) (maxLength : Nat) : String :=
  match d with
  | mySql =>
    if dataType = "VARCHAR" ∧ maxLength = 0 then "TEXT"
    else if dataType = "UUID" then "CHAR(36)"
    else dataType
  | postgres =>
    if dataType = "DOUBLE" then "DOUBLE PRECISION"
    else if dataType = "TINYINT" then "SMALLINT"
    else if dataType = "BLOB" then "BYTEA"
    else dataType
  | _ => dataType

/-- The data type and clause of a generated key. -/
def autoIncrement (d : Dialect) (dataType : String) : AutoIncrement :=
  match d with
  | ansi => ⟨dataType, some "GENERATED BY DEFAULT AS IDENTITY"⟩
  | postgres =>
    if dataType = "BIGINT" then ⟨"BIGSERIAL", none⟩
    else if dataType = "SMALLINT" ∨ dataType = "TINYINT" then ⟨"SMALLSERIAL", none⟩
    else ⟨"SERIAL", none⟩
  | sqlite => ⟨"INTEGER", none⟩
  | _ => ⟨dataType, some "AUTO_INCREMENT"⟩

/-- The words that open the creation of a table. -/
def createTableWords (d : Dialect) (memory : Bool) : String :=
  match d with
  | h2 =>
    if memory then "CREATE MEMORY TABLE IF NOT EXISTS" else "CREATE CACHED TABLE IF NOT EXISTS"
  | _ => "CREATE TABLE IF NOT EXISTS"

/-- Whether tables can be kept in memory. -/
def hasMemoryTables (d : Dialect) : Bool :=
  d == h2

/-- Whether transactions can be rolled back in parts. -/
def hasSavePoints (d : Dialect) : Bool :=
  d != sqlite

/-- Whether results are paged with LIMIT and OFFSET. -/
def hasLimitOffset (d : Dialect) : Bool :=
  d != ansi

/-- How an object is merged. -/
def mergeStrategy : Dialect → MergeStrategy
  | ansi => .emulated
  | h2 => .mergeKey
  | mySql => .onDuplicateKeyUpdate
  | postgres => .onConflictDoUpdate
  | sqlite => .insertOrReplace

/-- Columns with commas between them. -/
def columnList (d : Dialect) (columns : List String) : String :=
  ", ".intercalate (columns.map d.identifier)

/-! ## Indexes -/

/-- Whether the engine organises an index by hash values. -/
def usesHash (d : Dialect) (i : IndexDefinition) : Bool :=
  match d with
  | h2 | mySql => i.kind.asksForHash
  | postgres => i.kind == .hash && i.columnNames.length == 1
  | _ => false

/-- The statement that creates an index. -/
def createIndexSql (d : Dialect) (schema : Option String) (table : String) (i : IndexDefinition) :
    String :=
  let unique := if i.kind.isUnique then "UNIQUE " else ""
  let hash := d.usesHash i
  let onTable := " ON " ++ d.qualified schema table
  let columns := "(" ++ d.columnList i.columnNames ++ ")"
  match d with
  | h2 =>
    "CREATE " ++ unique ++ (if hash then "HASH " else "") ++ "INDEX IF NOT EXISTS " ++
      d.identifier i.name ++ onTable ++ columns
  | mySql =>
    "CREATE " ++ unique ++ "INDEX " ++ d.identifier i.name ++ (if hash then " USING HASH" else "") ++
      onTable ++ columns
  | postgres =>
    "CREATE " ++ unique ++ "INDEX IF NOT EXISTS " ++ d.identifier i.name ++ onTable ++
      (if hash then " USING HASH " else "") ++ columns
  | _ =>
    "CREATE " ++ unique ++ "INDEX IF NOT EXISTS " ++ d.identifier i.name ++ onTable ++ columns

/-- The warning about an index that asks for hash values and does not get them. -/
def indexNotices (d : Dialect) (i : IndexDefinition) : List Notice :=
  if i.kind.asksForHash && !d.usesHash i then
    match d with
    | postgres => [.hashRestricted i.name]
    | _ => [.hashUnsupported d.name i.name]
  else []

/-! ## Paging -/

/-- The clause that keeps at most `limit` rows behind the first `offset`. -/
def pagingClause (d : Dialect) (limit offset : Option UInt64) : String :=
  let number := fun n : UInt64 => Numeral.ofNat n.toNat
  match d with
  | ansi =>
    (match offset with
      | some m => " OFFSET " ++ number m ++ " ROWS"
      | none => "") ++
    (match limit with
      | some n => " FETCH FIRST " ++ number n ++ " ROWS ONLY"
      | none => "")
  | d =>
    let all :=
      match d with
      | mySql => some " LIMIT 18446744073709551615"
      | sqlite => some " LIMIT -1"
      | _ => none
    (match limit, offset with
      | some n, _ => " LIMIT " ++ number n
      | none, some _ => all.getD ""
      | none, none => "") ++
    (match offset with
      | some m => " OFFSET " ++ number m
      | none => "")

end Dialect
end TableMapping
