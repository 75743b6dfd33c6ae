import TableMapping.Proofs.Model.Selection

/-!
# The faults of a schema

What is wrong with a schema can be listed without building anything: what is wrong with each
selected field, given those before it, the names of the key that no column has, and what is wrong
with each index, given those before it.  The definition of a schema fails with the first entry of
this list, and it succeeds when the list is empty.

* `Refuses`: a computation fails with the first of some faults; `Refuses.bind` puts two such
  computations in sequence.
* `ModelSchema.faults`: the list for a schema.
* `ModelSchema.refuses_mapFields`, `ModelSchema.refuses_resolveColumns`,
  `ModelSchema.refuses_defineIndexes`: its three parts.
* `ModelSchema.define_eq_error_iff`: the whole.
-/

namespace TableMapping

open Runs

/-! ## Failing with the first fault -/

/-- A computation fails with the first of some faults, and only then. -/
def Refuses {ε α : Type} (x : Except ε α) (faults : List ε) : Prop :=
  ∀ e, x = .error e ↔ faults.head? = some e

namespace Refuses

variable {ε α β : Type} {x : Except ε α} {f : α → Except ε β} {faults later : List ε}

theorem ok (a : α) : Refuses (.ok a : Except ε α) [] :=
  fun _ => ⟨nofun, nofun⟩

theorem error (e : ε) (later : List ε) : Refuses (.error e : Except ε α) (e :: later) := by
  intro e'
  rw [List.head?_cons, Option.some.injEq]
  exact ⟨Except.error.inj, congrArg _⟩

/-- Without faults there is an answer. -/
theorem exists_ok (h : Refuses x []) : ∃ a, x = .ok a := by
  cases hx : x with
  | error e => exact nomatch (h e).mp hx
  | ok a => exact ⟨a, rfl⟩

/-- What follows a computation is only looked at when the computation has no fault. -/
theorem bind (h : Refuses x faults) (hf : ∀ a, x = .ok a → Refuses (f a) later) :
    Refuses (x >>= f) (faults ++ later) := by
  cases hx : x with
  | error e =>
    have hhead := (h e).mp hx
    intro e'
    rw [List.head?_append, hhead, Option.some_or]
    exact error e [] e'
  | ok a =>
    have hnone : faults = [] := by
      cases faults with
      | nil => rfl
      | cons e _ => exact nomatch hx.symm.trans ((h e).mpr rfl)
    rw [hnone]
    exact hf a hx

/-- What is made of an answer adds no fault. -/
theorem map (h : Refuses x faults) (g : α → β) : Refuses (x >>= fun a => .ok (g a)) faults := by
  have hbind := h.bind fun a _ => ok (g a)
  rwa [List.append_nil] at hbind

/-- A check in front of a computation. -/
theorem guard {c : Bool} {e : ε} (h : Refuses x later) :
    Refuses (if c then throw e else x) ((if c then [e] else []) ++ later) := by
  cases c with
  | false => exact h
  | true => exact error e later

end Refuses

/-- What is wrong with the elements of a list, each looked at together with those before it. -/
def inTurn {α ε : Type} (check : List α → α → List ε) (earlier : List α) : List α → List ε
  | [] => []
  | a :: as => check earlier a ++ inTurn check (earlier ++ [a]) as

/-- Whether a type is outside the type table. -/
def FieldType.isOther : FieldType → Bool
  | .other _ => true
  | _ => false

theorem FieldType.isNone_dataType? (t : FieldType) (encoding : Option Encoding) :
    (t.dataType? encoding).isNone = t.isOther := by
  cases t with
  | enumeration e =>
    rw [dataType?]
    cases encoding.getD .standard <;> rfl
  | _ => rfl

namespace ModelSchema

variable {M : Type} {s : ModelSchema M} {build index : Nat}

/-! ## The faults -/

/-- Whether strict mapping has no type for a field. -/
def isUnsupported (s : ModelSchema M) (a : FieldSpec M) : Bool :=
  s.isStrict && (a.adapter.isNone && a.fieldType.isOther)

/-- What is wrong with a field that is mapped behind others. -/
def fieldFaults (s : ModelSchema M) (earlier : List (FieldSpec M)) (a : FieldSpec M) :
    List MappingError :=
  (if s.isUnsupported a then [.unsupportedType s.tableName a.name a.fieldType.label] else []) ++
    if earlier.any fun b => Text.sameName b.columnName a.columnName then
      [.duplicateColumn s.tableName a.columnName]
    else []

/-- The names that no column has. -/
def unknownColumns (s : ModelSchema M) (context : String) (names : List String) :
    List MappingError :=
  names.flatMap fun name =>
    if s.selected.any fun a => Text.sameName a.columnName name then []
    else [.unknownColumn s.tableName name context]

/-- The indexes with their names. -/
def namedIndexes (s : ModelSchema M) : List (String × IndexOptions) :=
  s.indexes.mapIdx fun i options => (s.indexName i options, options)

/-- What is wrong with an index that is defined behind others. -/
def indexFaults (s : ModelSchema M) (earlier : List (String × IndexOptions))
    (i : String × IndexOptions) : List MappingError :=
  (if earlier.any fun j => Text.sameName j.1 i.1 then [.duplicateIndex s.tableName i.1] else []) ++
    s.unknownColumns "index" i.2.columns

/-- What is wrong with a schema, in the order in which it is noticed. -/
def faults (s : ModelSchema M) : List MappingError :=
  inTurn s.fieldFaults [] s.selected ++ s.unknownColumns "primary key" s.effectiveKey ++
    inTurn s.indexFaults [] s.namedIndexes

/-! ## Columns -/

theorem refuses_dataTypeOf (s : ModelSchema M) (a : FieldSpec M) :
    Refuses (s.dataTypeOf a)
      (if s.isUnsupported a then [.unsupportedType s.tableName a.name a.fieldType.label]
        else []) := by
  rw [dataTypeOf, isUnsupported, ← a.fieldType.isNone_dataType? (encodingOf a)]
  cases a.adapter with
  | some adapter => simpa using Refuses.ok adapter.dataType
  | none =>
    cases a.fieldType.dataType? (encodingOf a) with
    | some dataType => simpa using Refuses.ok dataType
    | none =>
      cases s.isStrict with
      | false => exact Refuses.ok fallbackDataType
      | true => exact Refuses.error _ []

theorem refuses_mapField (s : ModelSchema M) (build index : Nat) (a : FieldSpec M) :
    Refuses (s.mapField build index a)
      (if s.isUnsupported a then [.unsupportedType s.tableName a.name a.fieldType.label]
        else []) := by
  rw [mapField]
  exact (s.refuses_dataTypeOf a).map _

theorem columnName_of_mapField {a : FieldSpec M} {field : MappedField M}
    (h : s.mapField build index a = .ok field) : field.columnName = a.columnName := by
  obtain ⟨dataType, -, heq⟩ := bind_eq_ok.mp h
  cases Except.ok.inj heq
  rfl

theorem any_columnName {specs : List (FieldSpec M)} {fields : List (MappedField M)}
    (h : fields.map (fun f => f.columnName) = specs.map fun a => a.columnName) (name : String) :
    (fields.any fun f => Text.sameName f.columnName name) =
      specs.any fun a => Text.sameName a.columnName name := by
  have hany := congrArg (fun names => names.any fun c => Text.sameName c name) h
  rwa [List.any_map, List.any_map] at hany

theorem refuses_mapFields (s : ModelSchema M) (build index : Nat) {specs : List (FieldSpec M)}
    {earlier : List (MappedField M)}
    (hearlier : earlier.map (fun f => f.columnName) = specs.map fun a => a.columnName)
    (fs : List (FieldSpec M)) :
    Refuses (s.mapFields build index earlier fs)
      (inTurn s.fieldFaults specs (s.mappedFrom index fs)) := by
  induction fs generalizing index specs earlier with
  | nil => exact Refuses.ok earlier
  | cons a fs ih =>
    rw [mapFields, mappedFrom]
    by_cases hmapped : s.isMapped index a = true
    · rw [if_pos hmapped, if_pos hmapped, inTurn, fieldFaults, List.append_assoc]
      refine (s.refuses_mapField build index a).bind fun field hfield => ?_
      have hname := columnName_of_mapField hfield
      rw [any_columnName hearlier, hname]
      refine (ih (index + 1) ?_).guard
      rw [List.map_append, List.map_append, hearlier, List.map_singleton, List.map_singleton, hname]
    · rw [if_neg hmapped, if_neg hmapped]
      exact ih (index + 1) hearlier

/-! ## Names -/

theorem refuses_resolveColumns {fields : List (MappedField M)}
    (hfields : fields.map (fun f => f.columnName) = s.selected.map fun a => a.columnName)
    (context : String) (names : List String) :
    Refuses (s.resolveColumns context fields names) (s.unknownColumns context names) := by
  induction names with
  | nil => exact Refuses.ok []
  | cons name names ih =>
    have hany := any_columnName hfields name
    rw [resolveColumns, List.mapM_cons, unknownColumns, List.flatMap_cons, ← hany]
    cases hfind : fields.find? fun f => Text.sameName f.columnName name with
    | none =>
      have hnone : (fields.any fun f => Text.sameName f.columnName name) = false := by
        rw [List.any_eq_false]
        exact List.find?_eq_none.mp hfind
      rw [hnone]
      exact Refuses.error _ _
    | some f =>
      have hsome : (fields.any fun f => Text.sameName f.columnName name) = true := by
        rw [List.any_eq_true]
        have hsame := List.find?_some hfind
        exact ⟨f, List.mem_of_find?_eq_some hfind, hsame⟩
      rw [hsome]
      exact ih.map fun columns => f.columnName :: columns

theorem refuses_defineIndexes {fields : List (MappedField M)}
    (hfields : fields.map (fun f => f.columnName) = s.selected.map fun a => a.columnName)
    {earlier : List IndexDefinition} {named : List (String × IndexOptions)}
    (hearlier : earlier.map (fun i => i.name) = named.map fun i => i.1)
    (rest : List IndexOptions) :
    Refuses (s.defineIndexes fields earlier rest)
      (inTurn s.indexFaults named
        (rest.mapIdx fun i options => (s.indexName (earlier.length + i) options, options))) := by
  induction rest generalizing earlier named with
  | nil => exact Refuses.ok earlier
  | cons options rest ih =>
    have hany : (earlier.any fun i => Text.sameName i.name (s.indexName earlier.length options)) =
        named.any fun i => Text.sameName i.1 (s.indexName earlier.length options) := by
      have hnames := congrArg (fun names => names.any fun n =>
        Text.sameName n (s.indexName earlier.length options)) hearlier
      rwa [List.any_map, List.any_map] at hnames
    rw [defineIndexes, List.mapIdx_cons, Nat.add_zero, inTurn, indexFaults, List.append_assoc]
    simp only
    rw [← hany]
    refine Refuses.guard ((refuses_resolveColumns hfields "index" options.columns).bind
      fun columns _ => ?_)
    have hnames : (earlier ++ [(⟨options.kind, s.indexName earlier.length options, columns⟩ :
        IndexDefinition)]).map (fun i => i.name) =
          (named ++ [(s.indexName earlier.length options, options)]).map fun i => i.1 := by
      rw [List.map_append, List.map_append, hearlier]
      rfl
    have hrest := ih hnames
    simp only [List.length_append, List.length_singleton, Nat.add_assoc, Nat.add_comm 1] at hrest
    exact hrest

/-! ## Definitions -/

theorem refuses_define (s : ModelSchema M) (build : Nat) : Refuses (s.define build) s.faults := by
  have hnone : ([] : List (MappedField M)).map (fun f => f.columnName) =
      ([] : List (FieldSpec M)).map fun a => a.columnName := rfl
  have hnoIndex : ([] : List IndexDefinition).map (fun i => i.name) =
      ([] : List (String × IndexOptions)).map fun i => i.1 := rfl
  rw [faults, List.append_assoc, define, ← mappedFrom_zero]
  refine (s.refuses_mapFields build 0 hnone s.declaredFields).bind fun mapped hmapped => ?_
  have hcolumns := forall₂_of_mapFields hmapped
  have hnames := columnNames_of_forall₂ (hcolumns.imp fun _ _ hf => hf.toIsColumnOf)
  rw [← keyNames_eq hcolumns]
  refine (refuses_resolveColumns hnames _ _).bind fun key _ => ?_
  have hflagged : (mapped.map (flagKey key)).map (fun f => f.columnName) =
      s.selected.map fun a => a.columnName := by
    rw [List.map_map]
    exact hnames
  have hindexes := refuses_defineIndexes hflagged hnoIndex s.indexes
  simp only [List.length_nil, Nat.zero_add] at hindexes
  exact hindexes.map _

theorem exists_define_of_faults (h : s.faults = []) (build : Nat) :
    ∃ d : TableDefinition M, s.define build = .ok d :=
  (h ▸ s.refuses_define build).exists_ok

/-- A schema has no definition exactly when something is wrong with it, and the failure is the first
thing that is wrong. -/
theorem define_eq_error_iff (s : ModelSchema M) (build : Nat) (e : MappingError) :
    s.define build = .error e ↔ s.faults.head? = some e :=
  s.refuses_define build e

end ModelSchema
end TableMapping
