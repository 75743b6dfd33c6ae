import TableMapping.Proofs.Query.Literals
import TableMapping.Proofs.Query.SelectList
import TableMapping.Proofs.Sql.Binding

/-!
# The parameters of queries

A query writes the names of its table and of columns of it, and its values are parameters like those
of an object.

* `Query.own_steps`: whatever steps made a query, its names are those of its definition.
* `Query.isBound_toSelect`, `Query.isBound_toCount`: the statements of a query bind its parameters.
* `TableDefinition.isBound_statements`: and so do all statements.
-/

namespace TableMapping

open Runs

/-! ## The names of a query -/

/-- The names that the statements of a query write. -/
def Query.names {M : Type} (q : Query M) : List String :=
  q.definition.names ++ q.conditions.flatMap Condition.names ++ q.order.map fun o => o.column

/-- A query writes no names but those of its definition. -/
def Query.Own {M : Type} (q : Query M) : Prop :=
  ∀ name ∈ q.names, name ∈ q.definition.names

namespace Query

variable {M : Type} {q : Query M}

theorem own_ofAlias (a : Alias M) : (ofAlias a).Own := by
  intro name hname
  rw [names, List.mem_append, List.mem_append] at hname
  rcases hname with (hname | hname) | hname
  · exact hname
  · exact absurd hname List.not_mem_nil
  · exact absurd hname List.not_mem_nil

theorem mem_names_of_resolveField {h : Handle} {f : MappedField M}
    (hf : q.view.resolveField h = .ok f) : f.columnName ∈ q.definition.names := by
  obtain ⟨column, -, hf⟩ := bind_eq_ok.mp hf
  have hmem : f ∈ q.definition.fields := TableDefinition.mem_of_fieldAt hf
  exact TableDefinition.mem_names.mpr (.inr (.inr (.inl ⟨f, hmem, rfl⟩)))

/-- Comparisons add the names of their columns. -/
theorem Own.close {c : OpenCondition M} (h : c.query.Own)
    (hfield : c.field.columnName ∈ c.query.definition.names) (compare : Comparison)
    {right : Operand} (hright : ∀ name, right = .column name → name ∈ c.query.definition.names) :
    (c.close compare right).definition = c.query.definition ∧ (c.close compare right).Own := by
  refine ⟨rfl, fun name hname => ?_⟩
  have hnew : ∀ joiner, ∀ name ∈ Condition.names ⟨joiner, c.field.columnName, compare, right⟩,
      name ∈ c.query.definition.names := by
    intro joiner name hname
    rw [Condition.names] at hname
    split at hname
    · rename_i other hother
      rcases List.mem_pair.mp hname with rfl | rfl
      · exact hfield
      · exact hright name hother
    · rw [List.mem_singleton.mp hname]
      exact hfield
  simp only [names, OpenCondition.close, List.flatMap_append, List.flatMap_singleton,
    List.mem_append] at hname
  rcases hname with (hname | hname | hname) | hname
  · exact hname
  · exact h name (List.mem_append_left _ (List.mem_append_right _ hname))
  · exact hnew _ name hname
  · exact h name (List.mem_append_right _ hname)

theorem Own.takes {q' : Query M} {s : QueryStep} (h : q.Own) (htakes : q.Takes s q') : q'.Own := by
  cases htakes with
  | @compare joiner handle k f compare right hf hk =>
    refine (Own.close (c := ⟨q, f, joiner⟩) h (mem_names_of_resolveField hf) compare ?_).2
    rintro name rfl
    cases hk with
    | column hg => exact mem_names_of_resolveField hg
  | @orderBy descending handle f hf =>
    intro name hname
    simp only [names, List.map_append, List.map_singleton, List.mem_append,
      List.mem_singleton] at hname
    rcases hname with hname | hname | rfl
    · exact h name (List.mem_append_left _ (List.mem_append.mpr hname))
    · exact h name (List.mem_append_right _ hname)
    · exact mem_names_of_resolveField hf
  | limit n => exact h
  | offset n => exact h
  | distinct => exact h

theorem own_steps (h : q.Own) (ss : List QueryStep) :
    Ensures (fun q' => q'.definition = q.definition ∧ q'.Own) (q.steps ss) := by
  refine ensures_steps (P := fun _ q' => q'.definition = q.definition ∧ q'.Own) [] ⟨rfl, h⟩ ?_ ss
  rintro _ q₁ s q' ⟨hdefinition, hown⟩ htakes
  exact ⟨(congrArg SelectView.definition htakes.view_eq).trans hdefinition, hown.takes htakes⟩

end Query

/-! ## Paging -/

namespace Fragment

/-- A clause that may be left out. -/
def IsClause (s : String) : Prop :=
  s = "" ∨ isWords s = true

theorem isWords_append {s t : String} (hs : isWords s = true)
    (ht : ∀ c ∈ t.toList, c ∉ ['"', '\x60', '?', '$']) : isWords (s ++ t) = true := by
  obtain ⟨hsome, hplain, hdigit⟩ := isWords_iff.mp hs
  rw [isWords_iff, String.toList_append]
  refine ⟨List.append_ne_nil_of_left_ne_nil hsome _, List.forall_mem_append.mpr ⟨hplain, ht⟩, ?_⟩
  rwa [List.head?_append_of_ne_nil _ hsome]

theorem IsClause.append {s t : String} (hs : IsClause s) (ht : IsClause t) : IsClause (s ++ t) := by
  rcases hs with rfl | hs
  · rwa [String.empty_append]
  · rcases ht with rfl | ht
    · rw [String.append_empty]
      exact .inr hs
    · exact .inr (isWords_append hs (isWords_iff.mp ht).2.1)

/-- Words with a number behind them. -/
theorem isWords_number {s : String} (hs : isWords s = true) (n : Nat) :
    isWords (s ++ Numeral.ofNat n) = true := by
  refine isWords_append hs fun c hc hmem => ?_
  rw [Numeral.ofNat, String.toList_ofList] at hc
  have hdigit := Numeral.isDigit_of_mem_digits hc
  have hmark : ['"', '\x60', '?', '$'].all (!·.isDigit) = true := by decide
  have hnone := List.all_eq_true.mp hmark c hmem
  rw [hdigit] at hnone
  cases hnone

theorem isClause_pagingClause (d : Dialect) (limit offset : Option UInt64) :
    IsClause (d.pagingClause limit offset) := by
  have hnumber : ∀ (s : String) (n : UInt64), isWords s = true →
      IsClause (s ++ Numeral.ofNat n.toNat) := fun s n hs => .inr (isWords_number hs _)
  have hnone : IsClause "" := .inl rfl
  have hrows : IsClause " ROWS" ∧ IsClause " ROWS ONLY" := ⟨.inr (by decide), .inr (by decide)⟩
  have hall : IsClause " LIMIT 18446744073709551615" ∧ IsClause " LIMIT -1" :=
    ⟨.inr (by decide), .inr (by decide)⟩
  cases limit with
  | none =>
    cases offset with
    | none => cases d <;> exact hnone.append hnone
    | some m =>
      have hskip := hnumber " OFFSET " m (by decide)
      cases d with
      | ansi => exact (hskip.append hrows.1).append hnone
      | h2 | postgres => exact hnone.append hskip
      | mySql => exact hall.1.append hskip
      | sqlite => exact hall.2.append hskip
  | some n =>
    have hlimit := hnumber " LIMIT " n (by decide)
    have hfetch := (hnumber " FETCH FIRST " n (by decide)).append hrows.2
    cases offset with
    | none =>
      cases d with
      | ansi => exact hnone.append hfetch
      | h2 | mySql | postgres | sqlite => exact hlimit.append hnone
    | some m =>
      have hskip := hnumber " OFFSET " m (by decide)
      cases d with
      | ansi => exact (hskip.append hrows.1).append hfetch
      | h2 | mySql | postgres | sqlite => exact hlimit.append hskip

end Fragment

/-! ## Statements of queries -/

namespace Query

open Fragment

variable {M : Type} {q : Query M} {d : Dialect} (hnames : ∀ name ∈ q.names, d.Spells name)

include hnames

theorem spells_columnNames : ∀ c ∈ q.columnNames, d.Spells c := by
  intro c hc
  obtain ⟨column, -, hcolumn⟩ := List.mem_filterMap.mp hc
  obtain ⟨f, hf, rfl⟩ := Option.map_eq_some_iff.mp hcolumn
  refine hnames _ (List.mem_append_left _ (List.mem_append_left _ ?_))
  exact TableDefinition.mem_names.mpr (.inr (.inr (.inl ⟨f, List.mem_of_getElem? hf, rfl⟩)))

theorem legible_fromFragments : Legible d q.fromFragments := by
  have htable : Legible d [.table q.definition.schemaName q.definition.tableName] :=
    TableDefinition.legible_table fun name hname =>
      hnames name (List.mem_append_left _ (List.mem_append_left _ hname))
  have hwhere : Legible d (whereClause q.conditions) := by
    refine legible_whereClause fun c hc name hname => hnames name ?_
    exact List.mem_append_left _ (List.mem_append_right _ (List.mem_flatMap.mpr ⟨c, hc, hname⟩))
  exact (htable.cons_text (by decide)).append hwhere (.inr (head?_whereClause _))

theorem legible_orderFragments :
    Legible d q.orderFragments ∧ q.orderFragments.head?.all isText = true := by
  rw [orderFragments]
  split
  · exact ⟨legible_nil d, rfl⟩
  · refine ⟨(legible_separated (by decide) ?_).cons_text (by decide), rfl⟩
    refine List.forall_mem_map.mpr fun o ho => ?_
    have hcolumn : d.Spells o.column :=
      hnames _ (List.mem_append_right _ (List.mem_map_of_mem ho))
    split
    · have hdescending : Legible d [.text " DESC"] := legible_text (by decide)
      exact (legible_column hcolumn).append hdescending (.inr rfl)
    · exact legible_column hcolumn

theorem isBound_toCount : (q.toCount d).IsBound d :=
  Dialect.isBound_statement ((legible_fromFragments hnames).cons_text (by decide))

theorem isBound_toSelect : (q.toSelect d).IsBound d := by
  have hselect : isWords (if q.distinct then "SELECT DISTINCT " else "SELECT ") = true := by
    split <;> decide
  have hcolumns := (legible_columnFragments (spells_columnNames hnames)).cons_text hselect
  have hfrom := hcolumns.append (legible_fromFragments hnames) (.inr rfl)
  obtain ⟨horder, hhead⟩ := legible_orderFragments hnames
  have hrows := hfrom.append horder (.inr hhead)
  rw [toSelect, selectFragments]
  rcases isClause_pagingClause d q.limit q.offset with hnone | hpaging
  · rw [hnone, Dialect.statement_append_nothing]
    exact Dialect.isBound_statement hrows
  · exact Dialect.isBound_statement
      (hrows.append (legible_text hpaging) (.inr rfl))

end Query

/-! ## All statements -/

/-- Every statement binds its parameters, and whatever is added to a statement as conditions goes on
with its parameters.  Where names are quoted this holds for all names, and otherwise for names
without placeholders in them. -/
theorem TableDefinition.isBound_statements {M : Type} (d : TableDefinition M) (dialect : Dialect)
    (hnames : ∀ name ∈ d.names, dialect.Spells name) (m : M) :
    Ensures (fun st => st.IsBound dialect) (d.insertStatement m dialect) ∧
      Ensures (fun st => st.IsBound dialect) (d.updateStatement m dialect) ∧
      Ensures (fun st => st.IsBound dialect) (d.deleteStatement m dialect) ∧
      Ensures (fun plan => ∀ st ∈ plan.statements, st.IsBound dialect) (d.mergePlan m dialect) ∧
      (∀ (N : Type) (q : Query N), (∀ name ∈ q.names, dialect.Spells name) →
        (q.toSelect dialect).IsBound dialect ∧ (q.toCount dialect).IsBound dialect) ∧
      ∀ (b : StatementBuilder) (cs : List Condition),
        (∀ c ∈ cs, ∀ name ∈ c.names, b.dialect.Spells name) →
          ∃ added, b.Continues (b.addAll (whereClause cs)) added
            (Fragment.bound (whereClause cs)) := by
  refine ⟨ensures_insertStatement hnames m, ensures_updateStatement hnames m,
    ensures_deleteStatement hnames m, ensures_mergePlan hnames m, fun N q hq => ?_,
    fun b cs hcs => ?_⟩
  · exact ⟨Query.isBound_toSelect hq, Query.isBound_toCount hq⟩
  · exact b.continues_addAll (Fragment.legible_whereClause hcs) (Fragment.head?_whereClause cs)

/-! ### Placeholders of a visit -/

namespace Session

theorem spells_visit : ∀ name ∈ visitDefinition.names, Dialect.sqlite.Spells name := by
  have hplain : ∀ name ∈ visitDefinition.names, '?' ∉ name.toList := by decide
  exact fun name hname _ => hplain name hname

/-- An update and a search, in a dialect without quotes. -/
theorem isBound_visit :
    (∃ st l, (visitDefinition.updateStatement ⟨7, "home"⟩ .sqlite).run .start = (.ok st, l) ∧
      Dialect.sqlite.placeholders st.sql = ["?", "?"] ∧
      st.params = [.text "home", .of (.bigInt 7)] ∧
      Dialect.sqlite.bindings st = [some (.text "home"), some (.of (.bigInt 7))]) ∧
    ∃ q l, ((Query.ofAlias ⟨1, visitDefinition⟩).steps (visitSearch "h%" 1 9)).run .start =
        (.ok q, l) ∧
      Dialect.sqlite.placeholders (q.toSelect .sqlite).sql = ["?", "?", "?"] := by
  obtain ⟨-, hupdate, -, -, hqueries, -⟩ := TableDefinition.isBound_statements visitDefinition
    .sqlite spells_visit ⟨7, "home"⟩
  obtain ⟨st, l, hst, hparams⟩ : ∃ st l,
      (visitDefinition.updateStatement ⟨7, "home"⟩ .sqlite).run .start = (.ok st, l) ∧
        st.params = [.text "home", .of (.bigInt 7)] := ⟨_, _, rfl, rfl⟩
  obtain ⟨q, l₁, hq, hvalues⟩ : ∃ q l₁, ((Query.ofAlias ⟨1, visitDefinition⟩).steps
      (visitSearch "h%" 1 9)).run .start = (.ok q, l₁) ∧ (q.toSelect .sqlite).params.length = 3 :=
    ⟨_, _, rfl, rfl⟩
  have hbound := hupdate _ _ _ hst
  obtain ⟨hdefinition, hown⟩ := Query.own_steps (Query.own_ofAlias _) _ _ _ _ hq
  obtain ⟨hselect, -⟩ := hqueries Visit q fun name hname => by
    have hmem := hown name hname
    rw [hdefinition] at hmem
    exact spells_visit name hmem
  refine ⟨⟨st, l, hst, ?_, hparams, ?_⟩, q, l₁, hq, ?_⟩
  · rw [hbound.placeholders, hparams]
    rfl
  · rw [hbound.bindings, hparams]
    rfl
  · rw [hselect.placeholders, hvalues]
    rfl

end Session
end TableMapping
