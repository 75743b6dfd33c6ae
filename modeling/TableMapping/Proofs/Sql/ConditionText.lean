import TableMapping.Proofs.Sql.ConditionReading
import TableMapping.Proofs.Sql.Spelling

/-!
# Conditions in a statement

A chain of conditions is written one behind the other, and each is whole: its column, the words of its
comparison, and the operands that the comparison takes.

* `whereClause_append`: a chain around one of its conditions.
* `Dialect.text_condition`: the text of a condition.
* `Dialect.exists_sql_condition`: where it stands in a statement.
* `bound_whereClause_concat`: the last condition binds its values behind all others.
-/

namespace TableMapping

namespace Operand

/-- The values that operands bind. -/
def values : Operand → List Value
  | none => []
  | value v => [v]
  | column _ => []
  | range low high => [low, high]

/-- The text of operands behind `n` values. -/
def text (d : Dialect) (n : Nat) : Operand → String
  | none => ""
  | value _ => " " ++ d.placeholder (n + 1)
  | column name => " " ++ d.identifier name
  | range _ _ => " " ++ d.placeholder (n + 1) ++ " AND " ++ d.placeholder (n + 2)

end Operand

/-- What stands in front of a condition. -/
def Condition.lead (earlier : List Condition) (c : Condition) : String :=
  if earlier.isEmpty then " WHERE " else (c.joiner.getD .and).sql

theorem whereClause_append (cs : List Condition) (c : Condition) (cs' : List Condition) :
    whereClause (cs ++ c :: cs') =
      whereClause cs ++ (.text (c.lead cs) :: c.fragments) ++ Condition.tailFragments cs' := by
  cases cs with
  | nil => rfl
  | cons first cs =>
    have htail : Condition.tailFragments (cs ++ c :: cs') = Condition.tailFragments cs ++
        (.text (c.lead (first :: cs)) :: c.fragments ++ Condition.tailFragments cs') := by
      rw [Condition.tailFragments, List.flatMap_append, List.flatMap_cons]
      rfl
    rw [List.cons_append, whereClause, whereClause, htail]
    simp only [List.append_assoc, List.cons_append]

/-- The values of one more condition are bound behind those of the chain. -/
theorem bound_whereClause_concat (cs : List Condition) {c : Condition} (hc : c.Fits) :
    Fragment.bound (whereClause (cs ++ [c])) =
      Fragment.bound (whereClause cs) ++ c.right.values := by
  have hcondition : Fragment.bound (.text (c.lead cs) :: c.fragments) = c.right.values := by
    obtain ⟨joiner, column, compare, right⟩ := c
    cases hc with
    | isNull => rfl
    | isNotNull => rfl
    | between low high => rfl
    | value hbinary v => cases compare <;> first | rfl | cases hbinary
    | column hbinary name => cases compare <;> rfl
  have hnone : Fragment.bound (Condition.tailFragments []) = [] := rfl
  rw [whereClause_append, Fragment.bound_append, Fragment.bound_append, hcondition, hnone,
    List.append_nil]

namespace Dialect

/-- The words of a comparison have their operands behind them, and nothing else. -/
theorem text_condition (d : Dialect) (n : Nat) {c : Condition} (hc : c.Fits) :
    d.text n c.fragments =
      d.identifier c.column ++ " " ++ c.compare.sql ++ c.right.text d n := by
  have hhead : ∀ fs, d.text n (.column c.column :: .text " " :: .text c.compare.sql :: fs) =
      d.identifier c.column ++ " " ++ c.compare.sql ++ d.text n fs := by
    intro fs
    simp only [text_cons_column, text_cons_text, String.append_assoc]
  have hright : d.text n (if c.compare.hasOperand then c.right.fragments else []) =
      c.right.text d n := by
    obtain ⟨joiner, column, compare, right⟩ := c
    cases hc with
    | isNull => rfl
    | isNotNull => rfl
    | between low high =>
      simp only [Comparison.hasOperand, if_true, Operand.fragments, Operand.text, text_cons_text,
        text_cons_param, text_nil, String.append_empty, String.append_assoc]
    | value hbinary v =>
      simp only [hasOperand_of_isBinary hbinary, if_true, Operand.fragments, Operand.text,
        text_cons_text, text_cons_param, text_nil, String.append_empty]
    | column hbinary name =>
      simp only [hasOperand_of_isBinary hbinary, if_true, Operand.fragments, Operand.text,
        text_cons_text, text_cons_column, text_nil, String.append_empty]
  rw [← hright]
  exact hhead _

/-- In a statement with a chain, each condition stands whole at its place. -/
theorem exists_sql_condition (d : Dialect) {fs gs : List Fragment} {cs cs' : List Condition}
    {c : Condition} (hfs : Fragment.bound fs = []) (hc : c.Fits) :
    ∃ before after, (d.statement (fs ++ whereClause (cs ++ c :: cs') ++ gs)).sql =
      before ++ c.lead cs ++ (d.identifier c.column ++ " " ++ c.compare.sql ++
        c.right.text d (Fragment.bound (whereClause cs)).length) ++ after := by
  have hparts : fs ++ whereClause (cs ++ c :: cs') ++ gs = fs ++ whereClause cs ++
      .text (c.lead cs) :: (c.fragments ++ (Condition.tailFragments cs' ++ gs)) := by
    rw [whereClause_append]
    simp only [List.append_assoc, List.cons_append]
  have hbound : (Fragment.bound (fs ++ whereClause cs)).length =
      (Fragment.bound (whereClause cs)).length := by
    rw [Fragment.bound_append, hfs, List.nil_append]
  refine ⟨d.text 0 (fs ++ whereClause cs), d.text ((Fragment.bound (whereClause cs)).length +
    (Fragment.bound c.fragments).length) (Condition.tailFragments cs' ++ gs), ?_⟩
  rw [sql_statement, hparts, text_append, text_cons_text, hbound, Nat.zero_add,
    text_append d _ c.fragments, d.text_condition _ hc]
  simp only [String.append_assoc]

end Dialect

end TableMapping
