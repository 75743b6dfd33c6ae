import TableMapping.Declaration.Attribute
import TableMapping.Model.Schema

/-!
# Options in attributes

The attributes of a declared model give the options of its table, its indexes, the name of its
schema and its version; those of a declared enumeration give its encoding and the identifiers
of its members.  Of several attributes that say the same thing of a model the first one counts,
and of several entries of one attribute the last one.

A declared option that is not given stays open; what it then stands for is decided when the
model is built.

* `tableDeclaration`, `indexDeclarations`, `schemaName`, `version`, `encoding` and `memberId` read
  the attributes of an item;
* `columnDeclaration` reads one attribute of a field.
-/

namespace TableMapping
namespace Declaration

/-- What is wrong with an attribute. -/
inductive AttributeError where
  /-- The attribute does not have the form that its name asks for. -/
  | malformed
  | notLiteral
  | notText
  | notInteger
  | unknownEncoding (value : String)
  | unknownIndexKind (value : String)
  | unknownTableOption
  | unknownIndexOption
  | unknownColumnOption
  | noIndexColumns
  | severalSorts
  | parentWithColumn
  deriving DecidableEq

/-- The wording of what is wrong with an attribute. -/
def AttributeError.message : AttributeError → String
  | malformed => "malformed attribute"
  | notLiteral => "expected a literal"
  | notText => "expected a string literal"
  | notInteger => "expected an integer literal"
  | unknownEncoding value =>
    "unknown enum encoding '" ++ value ++ "', expected name, ordinal or enum_id"
  | unknownIndexKind value =>
    "unknown index kind '" ++ value ++ "', expected standard, unique, hash or unique_hash"
  | unknownTableOption => "unknown table option"
  | unknownIndexOption => "unknown index option"
  | unknownColumnOption => "unknown column option"
  | noIndexColumns => "index requires at least one column"
  | severalSorts => "a field can be only one of enumeration, text or json"
  | parentWithColumn => "#[parent] cannot be combined with column attributes"

/-- An answer, or what is wrong with an attribute. -/
abbrev Reading := Except AttributeError

/-! ## Literals -/

/-- A literal as a number between two bounds. -/
def integerBetween (low high : Int) (negative : Bool) (magnitude : Nat) : Reading Int :=
  let n : Int := if negative then -(magnitude : Int) else magnitude
  if low ≤ n ∧ n ≤ high then .ok n else .error .malformed

/-- The literal of `#[name = literal]`. -/
def Attribute.literal (a : Attribute) : Reading Literal :=
  match a.input with
  | .literal l => .ok l
  | .expression => .error .notLiteral
  | .none => .error .malformed
  | .group _ => .error .malformed

/-- The text of `#[name = "text"]`. -/
def Attribute.text (a : Attribute) : Reading String := do
  match ← a.literal with
  | .text s => return s
  | _ => throw .notText

/-- The number of `#[name = number]`. -/
def Attribute.int32 (a : Attribute) : Reading Int32 := do
  match ← a.literal with
  | .integer negative magnitude =>
    return Int32.ofInt (← integerBetween (-2147483648) 2147483647 negative magnitude)
  | _ => throw .notInteger

/-- The text of an entry `name = "text"`. -/
def Entry.text (e : Entry) : Reading String :=
  match e.input with
  | .literal (.text s) => .ok s
  | _ => .error .malformed

/-- The truth value of an entry: `name` alone means that it is true. -/
def Entry.flag (e : Entry) : Reading Bool :=
  match e.input with
  | .none => .ok true
  | .literal (.bool b) => .ok b
  | _ => .error .malformed

/-- The length of an entry `name = number`: at most 64 bits, and no sign. -/
def Entry.length (e : Entry) : Reading Nat :=
  match e.input with
  | .literal (.integer false n) => if n < 18446744073709551616 then .ok n else .error .malformed
  | _ => .error .malformed

/-- Read the entries of an attribute in order, from a start; the first fault counts. -/
def Attribute.foldEntries {α : Type} (a : Attribute) (step : α → Entry → Reading α) (start : α) :
    Reading α :=
  match a.input with
  | .group ts => do
    let answer ← (entries ts).1.foldlM step start
    if (entries ts).2 then return answer else throw .malformed
  | _ => .error .malformed

/-- The encoding with a name, letter case aside. -/
def encodingNamed (value : String) : Reading Encoding :=
  match Text.asciiLower value with
  | "name" => .ok .name
  | "ordinal" => .ok .ordinal
  | "enum_id" => .ok .id
  | "enumid" => .ok .id
  | _ => .error (.unknownEncoding value)

/-- The index kind with a name, letter case aside. -/
def indexKindNamed (value : String) : Reading IndexKind :=
  match Text.asciiLower value with
  | "standard" => .ok .standard
  | "unique" => .ok .unique
  | "hash" => .ok .hash
  | "unique_hash" => .ok .uniqueHash
  | _ => .error (.unknownIndexKind value)

/-! ## Attributes of an item -/

/-- The options in `#[table(…)]`. -/
structure TableDeclaration where
  name : Option String := none
  primaryKey : Option String := none
  inheritColumns : Bool := false
  createIfRequired : Option Bool := none
  strictTypeMapping : Option Bool := none
  annotationsOnly : Option Bool := none
  memoryTable : Bool := false
  deriving DecidableEq

/-- Take an entry of `#[table(…)]` over. -/
def TableDeclaration.take (t : TableDeclaration) (e : Entry) : Reading TableDeclaration :=
  match e.name with
  | some "name" => do return { t with name := some (← e.text) }
  | some "primary_key" => do return { t with primaryKey := some (← e.text) }
  | some "inherit_columns" => do return { t with inheritColumns := ← e.flag }
  | some "create_if_required" => do return { t with createIfRequired := some (← e.flag) }
  | some "strict_type_mapping" => do return { t with strictTypeMapping := some (← e.flag) }
  | some "annotations_only" => do return { t with annotationsOnly := some (← e.flag) }
  | some "memory_table" => do return { t with memoryTable := ← e.flag }
  | _ => .error .unknownTableOption

/-- Read an attribute whose entries may be missing altogether. -/
def Attribute.foldOptions {α : Type} (a : Attribute) (step : α → Entry → Reading α) (start : α) :
    Reading α :=
  match a.input with
  | .none => .ok start
  | _ => a.foldEntries step start

/-- The first attribute with a name, read. -/
def firstNamed {α : Type} (as : List Attribute) (name : String) (read : Attribute → Reading α) :
    Reading (Option α) :=
  match as.find? fun a => a.isNamed name with
  | some a => (read a).map some
  | none => .ok none

/-- The table options of an item, when it has any. -/
def tableDeclaration (as : List Attribute) : Reading (Option TableDeclaration) :=
  firstNamed as "table" fun a => a.foldOptions TableDeclaration.take {}

/-- Take an entry of `#[index(…)]` over. -/
def takeIndexEntry (i : IndexOptions) (e : Entry) : Reading IndexOptions :=
  match e.name with
  | some "name" => do return { i with name := some (← e.text) }
  | some "kind" => do return { i with kind := ← indexKindNamed (← e.text) }
  | some "columns" => do return { i with columns := Text.columnNames (← e.text) }
  | _ => .error .unknownIndexOption

/-- Read one `#[index(…)]`, which must name a column. -/
def indexDeclaration (a : Attribute) : Reading IndexOptions := do
  let i ← a.foldEntries takeIndexEntry {}
  if i.columns.isEmpty then throw .noIndexColumns else return i

/-- The indexes of an item, in the order of their declaration. -/
def indexDeclarations (as : List Attribute) : Reading (List IndexOptions) :=
  (as.filter fun a => a.isNamed "index").mapM indexDeclaration

/-- The schema name of an item. -/
def schemaName (as : List Attribute) : Reading (Option String) :=
  firstNamed as "schema_name" Attribute.text

/-- The version of an item. -/
def version (as : List Attribute) : Reading (Option Int32) :=
  firstNamed as "version" Attribute.int32

/-- Read `#[enum_type = "…"]`. -/
def encodingAttribute (a : Attribute) : Reading Encoding := do
  encodingNamed (← a.text)

/-- The encoding of an item. -/
def encoding (as : List Attribute) : Reading (Option Encoding) :=
  firstNamed as "enum_type" encodingAttribute

/-- The identifier of a member of an enumeration. -/
def memberId (as : List Attribute) : Reading (Option Int32) :=
  firstNamed as "enum_id" Attribute.int32

/-! ## Attributes of a field -/

/-- The options in `#[column(…)]`. -/
structure ColumnDeclaration where
  name : Option String := none
  primaryKey : Bool := false
  autoIncrement : Bool := false
  length : Option Nat := none
  trim : Bool := false
  nullable : Option Bool := none
  defaultValue : Option String := none
  deriving DecidableEq

/-- Take an entry of `#[column(…)]` over. -/
def ColumnDeclaration.take (c : ColumnDeclaration) (e : Entry) : Reading ColumnDeclaration :=
  match e.name with
  | some "name" => do return { c with name := some (← e.text) }
  | some "primary_key" => do return { c with primaryKey := ← e.flag }
  | some "auto_increment" => do return { c with autoIncrement := ← e.flag }
  | some "length" => do return { c with length := some (← e.length) }
  | some "trim" => do return { c with trim := ← e.flag }
  | some "nullable" => do return { c with nullable := some (← e.flag) }
  | some "default_value" => do return { c with defaultValue := some (← e.text) }
  | _ => .error .unknownColumnOption

/-- Read `#[column]` or `#[column(…)]`. -/
def columnDeclaration (a : Attribute) : Reading ColumnDeclaration :=
  a.foldOptions ColumnDeclaration.take {}

end Declaration
end TableMapping
