import TableMapping.Sql.Statement

/-!
# Conditions

A WHERE clause is a flat chain of comparisons.  Each comparison after the first says how it is
joined to the one before it; without saying so it is joined by AND, and what the first one
says does not count.
-/

namespace TableMapping

/-- How a column is compared. -/
inductive Comparison where
  | equal
  | notEqual
  | greaterThan
  | greaterEqual
  | lessThan
  | lessEqual
  | like
  | between
  | isNull
  | isNotNull
  deriving DecidableEq, Repr

instance : Labelled Comparison where
  label
    | .equal => "Equal"
    | .notEqual => "NotEqual"
    | .greaterThan => "GreaterThan"
    | .greaterEqual => "GreaterEqual"
    | .lessThan => "LessThan"
    | .lessEqual => "LessEqual"
    | .like => "Like"
    | .between => "Between"
    | .isNull => "IsNull"
    | .isNotNull => "IsNotNull"
  all :=
    [.equal, .notEqual, .greaterThan, .greaterEqual, .lessThan, .lessEqual, .like, .between, .isNull,
      .isNotNull]
  find_label c := by cases c <;> decide

namespace Comparison

/-- The words of a comparison. -/
def sql : Comparison → String
  | equal => "="
  | notEqual => "<>"
  | greaterThan => ">"
  | greaterEqual => ">="
  | lessThan => "<"
  | lessEqual => "<="
  | like => "LIKE"
  | between => "BETWEEN"
  | isNull => "IS NULL"
  | isNotNull => "IS NOT NULL"

/-- Whether there is something to compare with. -/
def hasOperand : Comparison → Bool
  | isNull | isNotNull => false
  | _ => true

end Comparison

/-- How a comparison is joined to the one before it. -/
inductive Joiner where
  | and
  | or
  deriving DecidableEq, Repr

instance : Labelled Joiner where
  label
    | .and => "And"
    | .or => "Or"
  all := [.and, .or]
  find_label j := by cases j <;> decide

/-- The words of a joiner. -/
def Joiner.sql : Joiner → String
  | and => " AND "
  | or => " OR "

/-- What a column is compared with. -/
inductive Operand where
  | none
  | value (v : Value)
  | column (name : String)
  | range (low high : Value)

namespace Operand

/-- The fragments behind the words of a comparison. -/
def fragments : Operand → List Fragment
  | none => []
  | value v => [.text " ", .param v]
  | column name => [.text " ", .column name]
  | range low high => [.text " ", .param low, .text " AND ", .param high]

end Operand

/-- One comparison of a chain. -/
structure Condition where
  /-- The joiner to the comparison before. -/
  joiner : Option Joiner
  column : String
  compare : Comparison
  right : Operand

namespace Condition

/-- The fragments of a comparison. -/
def fragments (c : Condition) : List Fragment :=
  [.column c.column, .text " ", .text c.compare.sql] ++
    (if c.compare.hasOperand then c.right.fragments else [])

/-- The fragments of the comparisons behind the first. -/
def tailFragments (cs : List Condition) : List Fragment :=
  cs.flatMap fun c => .text (c.joiner.getD .and).sql :: c.fragments

end Condition

/-- The WHERE clause of a chain; the empty chain has none. -/
def whereClause : List Condition → List Fragment
  | [] => []
  | c :: cs => .text " WHERE " :: c.fragments ++ Condition.tailFragments cs

/-- Equality with values, every one of which must hold. -/
def equalities : List (String × Value) → List Condition
  | [] => []
  | (column, v) :: rest =>
    ⟨none, column, .equal, .value v⟩ ::
      rest.map fun (column, v) => ⟨some .and, column, .equal, .value v⟩

end TableMapping
