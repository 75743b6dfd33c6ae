import TableMapping.Model.Definition

/-!
# Aliases

A query names columns by handles rather than by texts.  An alias hands out one handle per
declared field of its model; a handle carries the number of its alias, so that a handle of
another alias, even of the same model, is never taken for one of this one.

A select view is what a query makes of an alias: it resolves the same handles, and for each
mapped column it holds the value of the row that was read last.
-/

namespace TableMapping

/-- A handle of a declared field. -/
structure Handle where
  /-- The number of the alias it belongs to. -/
  owner : UInt64
  /-- The position of the field among the declared fields. -/
  index : Nat
  deriving DecidableEq

/-- What a declared field is in a definition: the position of its mapped field, or its name when
it is not mapped. -/
inductive Target where
  | mapped (position : Nat)
  | unmapped (field : String)

namespace TableDefinition

variable {M : Type}

/-- What each declared field is. -/
def targets (d : TableDefinition M) : List Target :=
  d.declared.mapIdx fun index name =>
    match d.fields.findIdx? fun f => f.declaredIndex == index with
    | some position => .mapped position
    | none => .unmapped name

/-- The position of the mapped field that a handle stands for in the alias with this number. -/
def resolveIn (d : TableDefinition M) (number : UInt64) (h : Handle) : Except MappingError Nat :=
  match if h.owner = number then d.targets[h.index]? else none with
  | some (.mapped position) => .ok position
  | some (.unmapped field) => .error (.unmappedField d.tableName field)
  | none => .error (.unresolvableField d.tableName)

end TableDefinition

/-- A set of handles over the declared fields of a definition. -/
structure Alias (M : Type) where
  number : UInt64
  definition : TableDefinition M

/-- The value of a column in the row read last. -/
structure SelectColumn where
  /-- The position of the column's field among the mapped fields. -/
  fieldIndex : Nat
  current : Option Value

/-- A query's view of an alias. -/
structure SelectView (M : Type) where
  number : UInt64
  definition : TableDefinition M
  columns : List SelectColumn

/-- A mapped field by position.  Positions come from the definition itself. -/
def TableDefinition.fieldAt {M : Type} (d : TableDefinition M) (position : Nat) :
    Except MappingError (MappedField M) :=
  match d.fields[position]? with
  | some f => .ok f
  | none => .error (.unresolvableField d.tableName)

namespace Alias

variable {M : Type}

/-- Issue an alias with a number of its own. -/
def materialize (d : TableDefinition M) : Mapping (Alias M) := do
  return ⟨← Mapping.nextAlias, d⟩

/-- The handle of a declared field. -/
def handle (a : Alias M) (index : Nat) : Handle :=
  ⟨a.number, index⟩

/-- The handle of a mapped field. -/
def handleOf (a : Alias M) (f : MappedField M) : Handle :=
  a.handle f.declaredIndex

/-- The mapped field a handle stands for. -/
def resolve (a : Alias M) (h : Handle) : Except MappingError (MappedField M) := do
  a.definition.fieldAt (← a.definition.resolveIn a.number h)

/-- A view of the alias in which no row has been read. -/
def view (a : Alias M) : SelectView M :=
  ⟨a.number, a.definition, (List.range a.definition.fields.length).map fun i => ⟨i, none⟩⟩

end Alias

namespace SelectView

variable {M : Type}

/-- The column a handle stands for. -/
def resolve (s : SelectView M) (h : Handle) : Except MappingError SelectColumn := do
  let position ← s.definition.resolveIn s.number h
  match s.columns[position]? with
  | some c => return c
  | none => throw (.unresolvableField s.definition.tableName)

/-- The mapped field behind the column of a handle. -/
def resolveField (s : SelectView M) (h : Handle) : Except MappingError (MappedField M) := do
  s.definition.fieldAt (← s.resolve h).fieldIndex

/-- Read a row, which must have one value per column. -/
def readRow (s : SelectView M) (row : List Value) : Except MappingError (SelectView M) :=
  if row.length = s.columns.length then
    .ok { s with columns := s.columns.zipWith (fun c v => { c with current := some v }) row }
  else
    .error (.conversion s.definition.tableName (.rowLength row.length s.columns.length))

/-- Write the values of columns into an object. -/
def copyInto (d : TableDefinition M) (m : M) : List SelectColumn → Mapping M
  | [] => pure m
  | c :: cs =>
    match c.current with
    | none => copyInto d m cs
    | some v => do
      let f ← Mapping.ofExcept (d.fieldAt c.fieldIndex)
      let m ← f.setValue m v
      copyInto d m cs

/-- The object that the row read last holds. -/
def object (s : SelectView M) : Mapping M :=
  copyInto s.definition s.definition.blank s.columns

end SelectView
end TableMapping
