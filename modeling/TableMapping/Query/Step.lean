import TableMapping.Query.Query

/-!
# Queries step by step

What an application writes behind the start of a query is a list of steps: comparisons, each opened
by a handle and closed by a comparator, columns to order by, and what limits the result.  The first
step that fails ends the query.
-/

namespace TableMapping

/-- The comparisons with one value. -/
inductive ValueTest where
  | equal
  | notEqual
  | greaterThan
  | greaterEqual
  | lessThan
  | lessEqual
  deriving DecidableEq

/-- How a column is compared in a test. -/
def ValueTest.comparison : ValueTest → Comparison
  | equal => .equal
  | notEqual => .notEqual
  | greaterThan => .greaterThan
  | greaterEqual => .greaterEqual
  | lessThan => .lessThan
  | lessEqual => .lessEqual

/-- What closes a comparison. -/
inductive Comparator : Type 1 where
  | value (test : ValueTest) (v : Value)
  /-- A member of an enumeration. -/
  | member {E : Type} (t : EnumerationType E) (x : E)
  | like (pattern : String)
  | between (low high : Value)
  | isNull
  | isNotNull
  /-- Another column of the query. -/
  | column (h : Handle)

/-- Close a comparison. -/
def OpenCondition.closeWith {M : Type} (c : OpenCondition M) : Comparator → Mapping (Query M)
  | .value test v => c.compareValue test.comparison v
  | .member t x => c.isMember t x
  | .like pattern => pure (c.like pattern)
  | .between low high => c.between low high
  | .isNull => pure c.isNull
  | .isNotNull => pure c.isNotNull
  | .column h => Mapping.ofExcept (c.isColumn h)

/-- One step of a query. -/
inductive QueryStep : Type 1 where
  /-- A comparison of the column of a handle; the first one of a query has no joiner. -/
  | compare (joiner : Option Joiner) (h : Handle) (comparator : Comparator)
  | orderBy (descending : Bool) (h : Handle)
  | limit (n : UInt64)
  | offset (n : UInt64)
  | distinct

namespace Query

variable {M : Type}

/-- Take one step. -/
def step (q : Query M) : QueryStep → Mapping (Query M)
  | .compare joiner h comparator => do
    let c ← Mapping.ofExcept (q.condition joiner h)
    c.closeWith comparator
  | .orderBy descending h => Mapping.ofExcept (q.orderBy descending h)
  | .limit n => pure (q.withLimit n)
  | .offset n => pure (q.withOffset n)
  | .distinct => pure q.withDistinct

/-- Take steps one after the other. -/
def steps (q : Query M) : List QueryStep → Mapping (Query M)
  | [] => pure q
  | s :: ss => do
    let q ← q.step s
    steps q ss

end Query
end TableMapping
