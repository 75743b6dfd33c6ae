import TableMapping.Query.Alias
import TableMapping.Sql.Condition

/-!
# Queries

A query selects the objects of one model.  It starts from an alias and grows by steps:
comparisons that are joined by AND or OR, columns to order by, paging, and the removal of
repeated rows.  A comparison is opened by a handle and closed by a comparator; the value of
the comparator is converted as the column stores it.

`Query.selectFragments` and `Query.countFragments` are the statements of a query.
-/

namespace TableMapping

/-- A column to order by. -/
structure SortKey where
  column : String
  descending : Bool
  deriving DecidableEq

/-- A query over one model. -/
structure Query (M : Type) where
  view : SelectView M
  conditions : List Condition
  order : List SortKey
  limit : Option UInt64
  offset : Option UInt64
  distinct : Bool

/-- A comparison that waits for its comparator. -/
structure OpenCondition (M : Type) where
  query : Query M
  field : MappedField M
  joiner : Option Joiner

namespace Query

variable {M : Type}

/-- The query for all objects of an alias. -/
def ofAlias (a : Alias M) : Query M :=
  ⟨a.view, [], [], none, none, false⟩

/-- The definition of the model. -/
def definition (q : Query M) : TableDefinition M :=
  q.view.definition

/-- Open a comparison of the column of a handle. -/
def condition (q : Query M) (joiner : Option Joiner) (h : Handle) :
    Except MappingError (OpenCondition M) := do
  return ⟨q, ← q.view.resolveField h, joiner⟩

/-- Order by the column of a handle, after the columns chosen before. -/
def orderBy (q : Query M) (descending : Bool) (h : Handle) : Except MappingError (Query M) := do
  let f ← q.view.resolveField h
  return { q with order := q.order ++ [⟨f.columnName, descending⟩] }

/-- Keep at most `n` rows. -/
def withLimit (q : Query M) (n : UInt64) : Query M :=
  { q with limit := some n }

/-- Skip the first `n` rows. -/
def withOffset (q : Query M) (n : UInt64) : Query M :=
  { q with offset := some n }

/-- Leave out repeated rows. -/
def withDistinct (q : Query M) : Query M :=
  { q with distinct := true }

end Query

namespace OpenCondition

variable {M : Type}

/-- Close a comparison.  The joiner of the first comparison of a query does not count. -/
def close (c : OpenCondition M) (compare : Comparison) (right : Operand) : Query M :=
  let joiner := if c.query.conditions.isEmpty then none else c.joiner
  { c.query with
    conditions := c.query.conditions ++ [⟨joiner, c.field.columnName, compare, right⟩] }

/-- Compare with a value, converted as the column stores it. -/
def compareValue (c : OpenCondition M) (compare : Comparison) (v : Value) : Mapping (Query M) := do
  return c.close compare (.value (← c.field.toStorage (.plain v)))

/-- Compare with a member of an enumeration, written as the column stores it. -/
def isMember {E : Type} (c : OpenCondition M) (t : EnumerationType E) (x : E) : Mapping (Query M) := do
  let m ← Mapping.ofExcept (Member.ofTyped t x)
  return c.close .equal (.value (← c.field.toStorage (.member (some m))))

/-- Compare with a pattern, which is bound as it is. -/
def like (c : OpenCondition M) (pattern : String) : Query M :=
  c.close .like (.value (.text pattern))

/-- Compare with two bounds, both converted as the column stores them. -/
def between (c : OpenCondition M) (low high : Value) : Mapping (Query M) := do
  let low ← c.field.toStorage (.plain low)
  let high ← c.field.toStorage (.plain high)
  return c.close .between (.range low high)

/-- Ask for NULL. -/
def isNull (c : OpenCondition M) : Query M :=
  c.close .isNull .none

/-- Ask for anything but NULL. -/
def isNotNull (c : OpenCondition M) : Query M :=
  c.close .isNotNull .none

/-- Compare with another column of the same query. -/
def isColumn (c : OpenCondition M) (h : Handle) : Except MappingError (Query M) := do
  let f ← c.query.view.resolveField h
  return c.close .equal (.column f.columnName)

end OpenCondition

namespace Query

variable {M : Type}

/-- The names of the selected columns. -/
def columnNames (q : Query M) : List String :=
  q.view.columns.filterMap fun c => (q.definition.fields[c.fieldIndex]?).map fun f => f.columnName

/-- The table and the conditions. -/
def fromFragments (q : Query M) : List Fragment :=
  [.text " FROM ", .table q.definition.schemaName q.definition.tableName] ++ whereClause q.conditions

/-- The columns to order by. -/
def orderFragments (q : Query M) : List Fragment :=
  if q.order.isEmpty then []
  else
    .text " ORDER BY " ::
      separated ", " (q.order.map fun o =>
        .column o.column :: (if o.descending then [.text " DESC"] else []))

/-- The statement that selects the rows of a query. -/
def selectFragments (q : Query M) (d : Dialect) : List Fragment :=
  .text (if q.distinct then "SELECT DISTINCT " else "SELECT ") :: columnFragments q.columnNames ++
    q.fromFragments ++ q.orderFragments ++ [.text (d.pagingClause q.limit q.offset)]

/-- The statement that counts the rows of a query. -/
def countFragments (q : Query M) : List Fragment :=
  .text "SELECT COUNT(*)" :: q.fromFragments

/-- The statement that selects the rows of a query. -/
def toSelect (q : Query M) (d : Dialect) : Statement :=
  d.statement (q.selectFragments d)

/-- The statement that counts the rows of a query. -/
def toCount (q : Query M) (d : Dialect) : Statement :=
  d.statement q.countFragments

end Query
end TableMapping
