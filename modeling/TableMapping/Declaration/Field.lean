import TableMapping.Declaration.Options

/-!
# Declared fields

The attributes of a declared field say how it reaches the mapping: the options of its column,
its sort, the encoding of an enumeration, an adapter, and whether it is the embedded parent
or left out.

A field has at most one sort.  It may be called an enumeration more than once, for the
choice of an encoding says so too, but text and document only once.  The embedded parent has
neither a column nor a sort.

* `FieldAttribute.ofAttribute` reads one attribute;
* `FieldDeclaration.ofList` puts them together, and `FieldDeclaration.ofAttributes` does both.
-/

namespace TableMapping
namespace Declaration

/-! ## Attributes -/

/-- The sort of a field. -/
inductive FieldSort where
  | value
  | enumeration
  | text
  | document
  deriving DecidableEq, Repr

instance : Labelled FieldSort where
  label
    | .value => "Value"
    | .enumeration => "Enumeration"
    | .text => "Text"
    | .document => "Json"
  all := [.value, .enumeration, .text, .document]
  find_label s := by cases s <;> decide

/-- An attribute of a field that the mapping knows. -/
inductive FieldAttribute where
  | column (c : ColumnDeclaration)
  | enumeration
  /-- The choice of an encoding, which makes the field an enumeration. -/
  | encoding (e : Encoding)
  | text
  | document
  | adapter (path : String)
  | parent
  | skip
  deriving DecidableEq

namespace FieldAttribute

/-- Read an attribute; one that the mapping does not know is passed over. -/
def ofAttribute (a : Attribute) : Reading (Option FieldAttribute) :=
  match a.name with
  | some "column" => do return some (.column (← columnDeclaration a))
  | some "enumeration" => .ok (some .enumeration)
  | some "enum_type" => do return some (.encoding (← encodingAttribute a))
  | some "text" => .ok (some .text)
  | some "json" => .ok (some .document)
  | some "adapter" => do
    match Path.ofText? (← a.text) with
    | some path => return some (.adapter path.compact)
    | none => throw .malformed
  | some "parent" => .ok (some .parent)
  | some "skip" => .ok (some .skip)
  | _ => .ok none

end FieldAttribute

/-! ## Fields -/

/-- What the attributes of a field say. -/
structure FieldDeclaration where
  column : Option ColumnDeclaration := none
  sort : FieldSort := .value
  encoding : Option Encoding := none
  adapter : Option String := none
  parent : Bool := false
  skip : Bool := false
  deriving DecidableEq

/-- A field that is being put together. -/
structure FieldDraft where
  field : FieldDeclaration
  /-- How often a sort has been chosen. -/
  choices : Nat
  deriving DecidableEq

namespace FieldDraft

/-- Choose the sort of an enumeration; choosing it again does not count. -/
def chooseEnumeration (d : FieldDraft) : FieldDraft :=
  if d.field.sort = .enumeration then d
  else ⟨{ d.field with sort := .enumeration }, d.choices + 1⟩

/-- Choose another sort. -/
def choose (d : FieldDraft) (sort : FieldSort) : FieldDraft :=
  ⟨{ d.field with sort := sort }, d.choices + 1⟩

/-- Take an attribute over. -/
def take (d : FieldDraft) : FieldAttribute → FieldDraft
  | .column c => { d with field := { d.field with column := some c } }
  | .enumeration => d.chooseEnumeration
  | .encoding e => chooseEnumeration { d with field := { d.field with encoding := some e } }
  | .text => d.choose .text
  | .document => d.choose .document
  | .adapter path => { d with field := { d.field with adapter := some path } }
  | .parent => { d with field := { d.field with parent := true } }
  | .skip => { d with field := { d.field with skip := true } }

/-- The finished field, unless its attributes contradict each other. -/
def finish (d : FieldDraft) : Reading FieldDeclaration :=
  if 1 < d.choices then .error .severalSorts
  else if d.field.parent && (d.field.column.isSome || 0 < d.choices) then .error .parentWithColumn
  else .ok d.field

end FieldDraft

namespace FieldDeclaration

/-- The field with these attributes. -/
def ofList (as : List FieldAttribute) : Reading FieldDeclaration :=
  (as.foldl FieldDraft.take ⟨{}, 0⟩).finish

/-- The field with these attributes, once they are read. -/
def ofAttributes (as : List Attribute) : Reading FieldDeclaration := do
  ofList ((← as.mapM FieldAttribute.ofAttribute).filterMap id)

end FieldDeclaration
end Declaration
end TableMapping
