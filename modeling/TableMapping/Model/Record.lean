import TableMapping.Model.Schema

/-!
# Records

A record is an object of a model that is known only at run time: one value per declared field,
and one per field of the embedded parent.

* `cellField` declares a field that is kept in a cell;
* `Record.schema` puts the schema of the cells of a model and that of its parent together.
-/

namespace TableMapping

/-- One value per field. -/
abbrev Cells := List Value

namespace Cells

variable {T : Type} [Storable T]

/-- What the cell at an index holds; a cell that is missing or holds something else counts as
the default. -/
def read (cells : Cells) (index : Nat) (default : T) : T :=
  (cells[index]?.bind Storable.ofValue?).getD default

/-- Write the cell at an index. -/
def put (cells : Cells) (index : Nat) (x : T) : Cells :=
  cells.set index (Storable.toValue x)

end Cells

/-- A field that is kept in the cell at an index, given how a field with accessors is
declared. -/
def cellField {T : Type} [Storable T] (index : Nat) (default : T)
    (declare : (Cells → T) → (T → Cells → Cells) → FieldSpec Cells) : FieldSpec Cells :=
  declare (fun cells => cells.read index default) (fun x cells => cells.put index x)

/-- An object of a model that is known only at run time. -/
structure Record where
  own : Cells
  parent : Cells

namespace Record

/-- The record with other cells of its own. -/
def withOwn (cells : Cells) (r : Record) : Record :=
  { r with own := cells }

/-- The record with other cells of its parent. -/
def withParent (cells : Cells) (r : Record) : Record :=
  { r with parent := cells }

/-- The schema of the records whose own cells have one schema and whose parent's cells, if there
is a parent, another. -/
def schema (own : ModelSchema Cells) (parent : Option (ModelSchema Cells)) : ModelSchema Record :=
  let blank : Record := ⟨own.blank, (parent.map (·.blank)).getD []⟩
  let s : ModelSchema Record :=
    { own with
      fields := own.fields.map fun f => f.lift Record.own withOwn
      parentFields := own.parentFields.map fun f => f.lift Record.own withOwn
      blank := blank }
  match parent with
  | some p => s.inherit p Record.parent withParent
  | none => s

end Record
end TableMapping
