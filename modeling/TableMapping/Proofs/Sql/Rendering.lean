import TableMapping.Sql.Statement

/-!
# The text and the values of fragments

A statement is built fragment by fragment.  Its text and its values can also be said apart: the
values are those of the fragments, in order, and of them the text depends on nothing but how many
have been bound before.

* `Fragment.bound`: the values of fragments.
* `Dialect.written`: the text of fragments behind a number of values, with `written_append`.
* `StatementBuilder.addAll_eq`: what fragments add to a statement.
* `Fragment.skeleton`: fragments without their values, and `Dialect.written_skeleton`, by which the
  text is that of the skeleton.
-/

namespace TableMapping

/-! ## Text and values -/

/-- The values of fragments. -/
def Fragment.bound (fs : List Fragment) : List Value :=
  fs.filterMap fun
    | .param v => some v
    | _ => none

@[simp] theorem Fragment.bound_append (fs gs : List Fragment) :
    bound (fs ++ gs) = bound fs ++ bound gs :=
  List.filterMap_append

@[simp] theorem Fragment.bound_nil : bound [] = [] := rfl

@[simp] theorem Fragment.bound_cons_text (s : String) (fs : List Fragment) :
    bound (.text s :: fs) = bound fs := rfl

@[simp] theorem Fragment.bound_cons_column (name : String) (fs : List Fragment) :
    bound (.column name :: fs) = bound fs := rfl

@[simp] theorem Fragment.bound_cons_table (schema : Option String) (name : String)
    (fs : List Fragment) : bound (.table schema name :: fs) = bound fs := rfl

@[simp] theorem Fragment.bound_cons_param (v : Value) (fs : List Fragment) :
    bound (.param v :: fs) = v :: bound fs := rfl

/-- The text of a fragment behind `n` values. -/
def Fragment.written (d : Dialect) (n : Nat) : Fragment → List Char
  | .text s => s.toList
  | .column name => (d.identifier name).toList
  | .table schema name => (d.qualified schema name).toList
  | .param _ => (d.placeholder (n + 1)).toList

namespace Dialect

/-- The text of fragments behind `n` values. -/
def written (d : Dialect) (n : Nat) : List Fragment → List Char
  | [] => []
  | f :: fs => f.written d n ++ d.written (n + (Fragment.bound [f]).length) fs

theorem written_append (d : Dialect) (n : Nat) (fs gs : List Fragment) :
    d.written n (fs ++ gs) = d.written n fs ++ d.written (n + (Fragment.bound fs).length) gs := by
  induction fs generalizing n with
  | nil => rfl
  | cons f fs ih =>
    have hbound : (Fragment.bound (f :: fs)).length =
        (Fragment.bound [f]).length + (Fragment.bound fs).length := by
      rw [← List.singleton_append, Fragment.bound_append, List.length_append]
    rw [List.cons_append, written, written, ih, hbound, List.append_assoc, Nat.add_assoc]

end Dialect

namespace StatementBuilder

/-- Fragments add their text and their values. -/
theorem addAll_eq (b : StatementBuilder) (fs : List Fragment) :
    (b.addAll fs).sql.toList = b.sql.toList ++ b.dialect.written b.params.length fs ∧
      (b.addAll fs).params = b.params ++ Fragment.bound fs := by
  induction fs generalizing b with
  | nil => exact ⟨(List.append_nil _).symm, (List.append_nil _).symm⟩
  | cons f fs ih =>
    have hstep : (b.add f).sql.toList = b.sql.toList ++ f.written b.dialect b.params.length ∧
        (b.add f).params = b.params ++ Fragment.bound [f] ∧ (b.add f).dialect = b.dialect := by
      cases f with
      | param v => exact ⟨String.toList_append, rfl, rfl⟩
      | _ => exact ⟨String.toList_append, (List.append_nil _).symm, rfl⟩
    obtain ⟨hsql, hparams, hdialect⟩ := hstep
    obtain ⟨hrest, hvalues⟩ := ih (b.add f)
    have hcons : b.addAll (f :: fs) = (b.add f).addAll fs := rfl
    rw [hcons]
    constructor
    · rw [hrest, hsql, hparams, hdialect, List.length_append, List.append_assoc]
      rfl
    · rw [hvalues, hparams, List.append_assoc, ← Fragment.bound_append, List.singleton_append]

/-- Fragments add text and values to a statement. -/
def Adds (b : StatementBuilder) (fs : List Fragment) (added : String) (values : List Value) :
    Prop :=
  (b.addAll fs).sql = b.sql ++ added ∧ (b.addAll fs).params = b.params ++ values

variable (b : StatementBuilder) {fs : List Fragment} {added : String} {values : List Value}

theorem adds_iff : b.Adds fs added values ↔
    added.toList = b.dialect.written b.params.length fs ∧ values = Fragment.bound fs := by
  obtain ⟨hsql, hparams⟩ := b.addAll_eq fs
  rw [Adds, hparams, List.append_right_inj, ← String.toList_inj, hsql, String.toList_append,
    List.append_right_inj]
  exact and_congr eq_comm eq_comm

theorem exists_adds (fs : List Fragment) : ∃ added values, b.Adds fs added values :=
  ⟨_, _, b.adds_iff.mpr ⟨String.toList_ofList, rfl⟩⟩

end StatementBuilder

namespace Dialect

variable (d : Dialect) (fs : List Fragment)

theorem toList_sql_statement : (d.statement fs).sql.toList = d.written 0 fs :=
  ((StatementBuilder.start d).addAll_eq fs).1

theorem params_statement : (d.statement fs).params = Fragment.bound fs :=
  ((StatementBuilder.start d).addAll_eq fs).2

/-- Without limit and offset there is no paging clause. -/
theorem pagingClause_none : d.pagingClause none none = "" := by
  cases d <;> rfl

theorem statement_append_nothing : d.statement (fs ++ [.text ""]) = d.statement fs := by
  rw [Dialect.statement, StatementBuilder.addAll, List.foldl_append]
  simp only [List.foldl_cons, List.foldl_nil, StatementBuilder.add, StatementBuilder.append,
    String.append_empty]
  rfl

end Dialect

/-! ## Separators -/

theorem separated_cons_cons (separator : String) (part next : List Fragment)
    (parts : List (List Fragment)) :
    separated separator (part :: next :: parts) =
      part ++ .text separator :: separated separator (next :: parts) := rfl

/-- Each part but the first has a separator before it. -/
theorem separated_cons (separator : String) (part : List Fragment) (parts : List (List Fragment)) :
    separated separator (part :: parts) = part ++ parts.flatMap fun p => .text separator :: p := by
  induction parts generalizing part with
  | nil => exact (List.append_nil part).symm
  | cons next parts ih =>
    rw [separated_cons_cons, ih, List.flatMap_cons]
    rfl

/-- Separators bind nothing. -/
theorem Fragment.bound_separated (separator : String) (parts : List (List Fragment)) :
    bound (separated separator parts) = parts.flatMap bound := by
  induction parts with
  | nil => rfl
  | cons part parts ih =>
    cases parts with
    | nil => exact (List.append_nil _).symm
    | cons next parts =>
      rw [separated_cons_cons, bound_append, bound_cons_text, ih]
      rfl

/-! ## Skeletons -/

namespace Fragment

/-- A fragment whose value is left blank. -/
def blank : Fragment → Fragment
  | .param _ => .param (.null .bool)
  | f => f

/-- Fragments whose values are left blank. -/
def skeleton (fs : List Fragment) : List Fragment :=
  fs.map blank

@[simp] theorem skeleton_nil : skeleton [] = [] := rfl

@[simp] theorem skeleton_cons (f : Fragment) (fs : List Fragment) :
    skeleton (f :: fs) = f.blank :: skeleton fs := rfl

@[simp] theorem skeleton_append (fs gs : List Fragment) :
    skeleton (fs ++ gs) = skeleton fs ++ skeleton gs :=
  List.map_append

theorem skeleton_separated (separator : String) (parts : List (List Fragment)) :
    skeleton (separated separator parts) = separated separator (parts.map skeleton) := by
  induction parts with
  | nil => rfl
  | cons part parts ih =>
    cases parts with
    | nil => rfl
    | cons next parts =>
      have hblank : (Fragment.text separator).blank = .text separator := rfl
      rw [separated_cons_cons, skeleton_append, skeleton_cons, ih, hblank]
      rfl

@[simp] theorem skeleton_columnFragments (columns : List String) :
    skeleton (columnFragments columns) = columnFragments columns := by
  rw [columnFragments, skeleton_separated, List.map_map]
  rfl

/-- Of values in a list, the text shows how many they are. -/
theorem skeleton_valueFragments (values : List Value) :
    skeleton (valueFragments values) =
      valueFragments (List.replicate values.length (.null .bool)) := by
  have hblank : values.map (skeleton ∘ fun v => [.param v]) =
      values.map fun _ => [.param (.null .bool)] := rfl
  rw [valueFragments, skeleton_separated, valueFragments, List.map_map, List.map_replicate, hblank,
    List.map_const']

end Fragment

theorem Dialect.written_skeleton (d : Dialect) (n : Nat) (fs : List Fragment) :
    d.written n (Fragment.skeleton fs) = d.written n fs := by
  induction fs generalizing n with
  | nil => rfl
  | cons f fs ih =>
    have hwritten : f.blank.written d n = f.written d n := by cases f <;> rfl
    have hbound : (Fragment.bound [f.blank]).length = (Fragment.bound [f]).length := by
      cases f <;> rfl
    rw [Fragment.skeleton_cons, written, written, hwritten, hbound, ih]

/-- Statements of the same skeleton have the same text. -/
theorem Dialect.sql_statement_eq (d : Dialect) {fs gs : List Fragment}
    (h : Fragment.skeleton fs = Fragment.skeleton gs) :
    (d.statement fs).sql = (d.statement gs).sql := by
  rw [← String.toList_inj, toList_sql_statement, toList_sql_statement, ← written_skeleton, h,
    written_skeleton]

end TableMapping
