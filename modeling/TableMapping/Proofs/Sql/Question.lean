import Mathlib.Data.Multiset.Dedup
import TableMapping.Proofs.Sql.Table
import TableMapping.Query.Query
import TableMapping.Session.Engine

/-!
# What the questions to a table mean

A question asks for the rows of a table that a WHERE clause chooses, or for their number.  A
comparison with NULL is neither true nor false, AND binds tighter than OR, and a row is chosen when
the clause is true of it.  `SELECT DISTINCT` shows one of the rows that are the same in all selected
columns; `COUNT(*)` counts every row that is chosen.  How values that are not NULL compare, and which
of them are the same, is up to the engine.

* `Condition.outcome`, `whereOutcome`: what a condition and a WHERE clause say of a row.
* `Question.Answered`: the rows that answer a question.
* `Question.Answered.length_rows`: there are as many rows as there are chosen ones, unless rows are
  left out that are the same as others.
-/

namespace TableMapping

/-! ## Truth -/

/-- What a condition says of a row. -/
inductive Truth where
  | yes
  | no
  | unknown
  deriving DecidableEq

namespace Truth

def ofBool : Bool → Truth
  | true => yes
  | false => no

/-- Both are true. -/
def and : Truth → Truth → Truth
  | no, _ => no
  | _, no => no
  | yes, yes => yes
  | _, _ => unknown

/-- One is true. -/
def or : Truth → Truth → Truth
  | yes, _ => yes
  | _, yes => yes
  | no, no => no
  | _, _ => unknown

end Truth

/-- The scalar that a value is, unless it is NULL. -/
def Value.scalar? : Value → Option Scalar
  | .of x => some x
  | .null _ => none

/-- What an engine says of values that are not NULL. -/
structure Collation where
  equal : Scalar → Scalar → Bool
  less : Scalar → Scalar → Bool
  like : Scalar → Scalar → Bool
  /-- The values that a column does not tell apart. -/
  same : Setoid Scalar

namespace TableRow

/-- What a row holds in a column, unless it is NULL. -/
def scalar? (r : TableRow) (column : String) : Option Scalar :=
  (r column).bind Value.scalar?

/-- What a row holds in columns. -/
def cells (r : TableRow) (columns : List String) : List (Option Value) :=
  columns.map r

end TableRow

/-! ## Conditions -/

namespace Collation

variable (θ : Collation)

/-- Whether a comparison holds of values that are not NULL. -/
def holds : Comparison → Scalar → Scalar → Bool
  | .equal, x, y => θ.equal x y
  | .notEqual, x, y => !θ.equal x y
  | .greaterThan, x, y => θ.less y x
  | .greaterEqual, x, y => θ.less y x || θ.equal x y
  | .lessThan, x, y => θ.less x y
  | .lessEqual, x, y => θ.less x y || θ.equal x y
  | .like, x, y => θ.like x y
  | _, _, _ => false

/-- What a comparison says of values.  Of NULL it says nothing. -/
def compare (c : Comparison) : Option Scalar → Option Scalar → Truth
  | some x, some y => .ofBool (θ.holds c x y)
  | _, _ => .unknown

end Collation

/-- What a condition says of a row. -/
def Condition.outcome (θ : Collation) (r : TableRow) (c : Condition) : Truth :=
  let x := r.scalar? c.column
  match c.compare, c.right with
  | .isNull, _ => .ofBool x.isNone
  | .isNotNull, _ => .ofBool x.isSome
  | .between, .range low high =>
    (θ.compare .greaterEqual x low.scalar?).and (θ.compare .lessEqual x high.scalar?)
  | compare, .value v => θ.compare compare x v.scalar?
  | compare, .column name => θ.compare compare x (r.scalar? name)
  | _, _ => .unknown

/-- What a chain says of a row, where `before` is what the conditions since the last OR say. -/
def chainOutcome (θ : Collation) (r : TableRow) (before : Truth) : List Condition → Truth
  | [] => before
  | c :: cs =>
    match c.joiner.getD .and with
    | .and => chainOutcome θ r (before.and (c.outcome θ r)) cs
    | .or => before.or (chainOutcome θ r (c.outcome θ r) cs)

/-- What a WHERE clause says of a row. -/
def whereOutcome (θ : Collation) (r : TableRow) : List Condition → Truth
  | [] => .yes
  | c :: cs => chainOutcome θ r (c.outcome θ r) cs

/-! ## Chosen rows -/

namespace Collation

variable (θ : Collation)

/-- The values that are the same as one, or NULL. -/
def classOf (cell : Option Value) : Option (Quotient θ.same) :=
  (cell.bind Value.scalar?).map (Quotient.mk θ.same)

/-- Cells without what a column does not tell apart. -/
def classes (cells : List (Option Value)) : List (Option (Quotient θ.same)) :=
  cells.map θ.classOf

end Collation

namespace Table

variable (θ : Collation)

/-- The rows that a WHERE clause chooses. -/
def chosen (conditions : List Condition) (t : Multiset TableRow) : Multiset TableRow :=
  t.filter fun r => whereOutcome θ r conditions = .yes

/-- No two rows are the same in some columns. -/
def ToldApart (columns : List String) (t : Multiset TableRow) : Prop :=
  (t.map fun r => θ.classes (r.cells columns)).Nodup

end Table

/-! ## Questions -/

/-- A question to a table. -/
inductive Question where
  /-- `SELECT c, … FROM t WHERE … ORDER BY c, …`, or `SELECT DISTINCT c, … FROM t …`. -/
  | rows (distinct : Bool) (columns : List String) (conditions : List Condition)
    (order : List SortKey)
  /-- `SELECT COUNT(*) FROM t WHERE …`. -/
  | count (conditions : List Condition)

namespace Question

/-- The fragments of the table of a question. -/
def sourceFragments (schema : Option String) (table : String) (conditions : List Condition) :
    List Fragment :=
  [.text " FROM ", .table schema table] ++ whereClause conditions

/-- The fragments of a question. -/
def fragments (schema : Option String) (table : String) : Question → List Fragment
  | rows distinct columns conditions order =>
    .text (if distinct then "SELECT DISTINCT " else "SELECT ") :: columnFragments columns ++
      sourceFragments schema table conditions ++
      (if order.isEmpty then []
        else
          .text " ORDER BY " ::
            separated ", " (order.map fun o =>
              .column o.column :: (if o.descending then [.text " DESC"] else [])))
  | count conditions => .text "SELECT COUNT(*)" :: sourceFragments schema table conditions

open Table Classical in
/-- The rows that answer a question.  Nothing is said of their order. -/
inductive Answered (θ : Collation) (t : Multiset TableRow) : Question → List Row → Prop
  /-- Every chosen row is shown. -/
  | rows {columns : List String} {conditions : List Condition} {order : List SortKey}
      {rows : List Row}
      (hshown : (Multiset.ofList (rows.map fun row => row.map some)) =
        (chosen θ conditions t).map fun r => r.cells columns) :
      Answered θ t (.rows false columns conditions order) rows
  /-- Of chosen rows that are the same, one is shown. -/
  | distinct {columns : List String} {conditions : List Condition} {order : List SortKey}
      {rows : List Row}
      (hshown : ∀ row ∈ rows, ∃ r ∈ chosen θ conditions t, row.map some = r.cells columns)
      (hclasses : (Multiset.ofList (rows.map fun row => θ.classes (row.map some))) =
        ((chosen θ conditions t).map fun r => θ.classes (r.cells columns)).dedup) :
      Answered θ t (.rows true columns conditions order) rows
  /-- The chosen rows are counted. -/
  | count {conditions : List Condition} {v : Value} {n : Int64} (hv : v.integer? = some n)
      (hn : n.toInt = (chosen θ conditions t).card) :
      Answered θ t (.count conditions) [[v]]

namespace Answered

open Table

variable {θ : Collation} {t : Multiset TableRow} {distinct : Bool} {columns : List String}
  {conditions : List Condition} {order : List SortKey} {rows : List Row}

/-- There are at most as many rows as there are chosen ones.  There are as many exactly when all are
asked for or all are told apart. -/
theorem length_rows (h : Answered θ t (.rows distinct columns conditions order) rows) :
    rows.length ≤ (chosen θ conditions t).card ∧
      (rows.length = (chosen θ conditions t).card ↔
        (distinct = true → ToldApart θ columns (chosen θ conditions t))) := by
  classical
  cases h with
  | rows hshown =>
    have hcard := congrArg Multiset.card hshown
    rw [Multiset.coe_card, List.length_map, Multiset.card_map] at hcard
    exact ⟨hcard.le, fun _ => nofun, fun _ => hcard⟩
  | distinct _ hclasses =>
    have hcard := congrArg Multiset.card hclasses
    rw [Multiset.coe_card, List.length_map] at hcard
    rw [hcard, ← Multiset.card_map (fun r => θ.classes (r.cells columns)) (chosen θ conditions t)]
    have hle := Multiset.dedup_le ((chosen θ conditions t).map fun r => θ.classes (r.cells columns))
    refine ⟨Multiset.card_le_card hle, fun heq _ => ?_, fun hapart => ?_⟩
    · exact Multiset.dedup_eq_self.mp (Multiset.eq_of_le_of_card_le hle heq.ge)
    · rw [Multiset.dedup_eq_self.mpr (hapart rfl)]

/-- The answer to a count is the number of the chosen rows. -/
theorem exists_count (h : Answered θ t (.count conditions) rows) :
    ∃ v n, rows = [[v]] ∧ v.integer? = some n ∧ n.toInt = (chosen θ conditions t).card := by
  cases h with
  | count hv hn => exact ⟨_, _, rfl, hv, hn⟩

end Answered
end Question
end TableMapping
