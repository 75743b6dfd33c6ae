import TableMapping.FieldType

/-!
# What can go wrong

Every failure of the mapping is one of fifteen cases.  `MappingError.code` is a number that
stays the same for each case, and `MappingError.message` is its wording, with the names of
the tables, columns and fields it is about.

A conversion says why a value could not be read or written; `Reason` lists the causes the
mapping knows, among them `malformed`, a text that does not follow the format asked of it.
-/

namespace TableMapping

/-- Why a value could not be converted. -/
inductive Reason where
  /-- The value is of a kind that the type cannot be read from. -/
  | unreadable (v : Value) (t : FieldType)
  | notInteger (v : Value)
  | outOfRange (n : Int) (t : FieldType)
  /-- The value is not one of the application's own type. -/
  | notA (v : Value) (type : String)
  /-- A member of an enumeration arrived at a field of another type. -/
  | memberForPlainField
  | notMember (v : Value) (enumeration : String)
  | invalidText (s : String) (type : String)
  | expectedDocument (v : Value)
  | expectedText (v : Value)
  | rowLength (values columns : Nat)
  | noCount
  /-- A text or a document that does not follow a format. -/
  | malformed (format : String)
  /-- A cause that an adapter words itself. -/
  | stated (text : String)

namespace Reason

/-- The wording of a reason. -/
def message : Reason → String
  | unreadable v t => "cannot read " ++ v.shown ++ " as " ++ t.label
  | notInteger v => v.shown ++ " is not an integer"
  | outOfRange n t => Numeral.ofInt n ++ " is out of range for " ++ t.label
  | notA v type => v.shown ++ " is not a " ++ type
  | memberForPlainField => "enum value for a non-enum field"
  | notMember v e => v.shown ++ " is not a member of " ++ e
  | invalidText s type => "'" ++ s ++ "' is not a valid " ++ type
  | expectedDocument v => "expected a JSON value, got " ++ v.shown
  | expectedText v => "expected text, got " ++ v.shown
  | rowLength values columns =>
    "row has " ++ Numeral.ofNat values ++ " values for " ++ Numeral.ofNat columns ++ " columns"
  | noCount => "count query returned no integer"
  | malformed format => "malformed " ++ format
  | stated text => text

end Reason

/-- The number of a case. -/
inductive ErrorCode where
  | unmappedField
  | duplicateKey
  | unsupportedType
  | missingEnumId
  | unknownEnumValue
  | duplicateColumn
  | duplicateIndex
  | noPrimaryKey
  | unknownColumn
  | unresolvableField
  | conversion
  | tableNotFound
  | upgradeFailed
  | execution
  | config
  deriving DecidableEq, Repr

/-- The number of a code. -/
def ErrorCode.number : ErrorCode → Nat
  | unmappedField => 1
  | duplicateKey => 2
  | unsupportedType => 3
  | missingEnumId => 4
  | unknownEnumValue => 5
  | duplicateColumn => 6
  | duplicateIndex => 7
  | noPrimaryKey => 8
  | unknownColumn => 9
  | unresolvableField => 10
  | conversion => 11
  | tableNotFound => 12
  | upgradeFailed => 13
  | execution => 14
  | config => 15

/-- The name of a code. -/
def ErrorCode.label : ErrorCode → String
  | unmappedField => "UnmappedField"
  | duplicateKey => "DuplicateKey"
  | unsupportedType => "UnsupportedType"
  | missingEnumId => "MissingEnumId"
  | unknownEnumValue => "UnknownEnumValue"
  | duplicateColumn => "DuplicateColumn"
  | duplicateIndex => "DuplicateIndex"
  | noPrimaryKey => "NoPrimaryKey"
  | unknownColumn => "UnknownColumn"
  | unresolvableField => "UnresolvableField"
  | conversion => "Conversion"
  | tableNotFound => "TableNotFound"
  | upgradeFailed => "UpgradeFailed"
  | execution => "Execution"
  | config => "Config"

/-- A failure of the mapping. -/
inductive MappingError where
  /-- A query names a field that no column holds. -/
  | unmappedField (table field : String)
  /-- Strict type mapping met a type outside the type table. -/
  | unsupportedType (table field type : String)
  /-- A member is to be written by an identifier it does not have. -/
  | missingEnumId (field enumeration member : String)
  /-- A stored value is no member of the enumeration. -/
  | unknownEnumValue (enumeration value : String)
  /-- The engine refused a key that is already stored. -/
  | duplicateKey (message : String)
  /-- Two fields have one column. -/
  | duplicateColumn (table column : String)
  /-- Two indexes have one name. -/
  | duplicateIndex (table index : String)
  /-- An operation needs a primary key and there is none. -/
  | noPrimaryKey (table operation : String)
  /-- A key or an index names a column that is not mapped. -/
  | unknownColumn (table column context : String)
  /-- A handle is not one of the alias in use. -/
  | unresolvableField (table : String)
  /-- A value could not be converted. -/
  | conversion (column : String) (reason : Reason)
  /-- The table of a statement does not exist. -/
  | tableNotFound (table : String)
  /-- The upgrader reported that it failed. -/
  | upgradeFailed (table : String) (fromVersion toVersion : Int32)
  /-- The engine reported some other failure. -/
  | execution (message : String)
  /-- The configuration could not be read. -/
  | config (message : String)

namespace MappingError

/-- The code of a failure. -/
def code : MappingError → ErrorCode
  | unmappedField .. => .unmappedField
  | unsupportedType .. => .unsupportedType
  | missingEnumId .. => .missingEnumId
  | unknownEnumValue .. => .unknownEnumValue
  | duplicateKey .. => .duplicateKey
  | duplicateColumn .. => .duplicateColumn
  | duplicateIndex .. => .duplicateIndex
  | noPrimaryKey .. => .noPrimaryKey
  | unknownColumn .. => .unknownColumn
  | unresolvableField .. => .unresolvableField
  | conversion .. => .conversion
  | tableNotFound .. => .tableNotFound
  | upgradeFailed .. => .upgradeFailed
  | execution .. => .execution
  | config .. => .config

/-- The wording of a failure. -/
def message : MappingError → String
  | unmappedField table field => "field '" ++ field ++ "' of " ++ table ++ " is not mapped to a column"
  | unsupportedType table field type =>
    "unsupported type " ++ type ++ " for field '" ++ field ++ "' of " ++ table
  | missingEnumId field enumeration member =>
    "enum " ++ enumeration ++ " does not supply an identifier for member " ++ member ++
      " (field '" ++ field ++ "')"
  | unknownEnumValue enumeration value =>
    "value " ++ value ++ " does not match any member of enum " ++ enumeration
  | duplicateKey message => "duplicate key: " ++ message
  | duplicateColumn table column => "duplicate column '" ++ column ++ "' in " ++ table
  | duplicateIndex table index => "duplicate index '" ++ index ++ "' on " ++ table
  | noPrimaryKey table operation =>
    "no primary key columns defined for " ++ table ++ " - " ++ operation ++ " not possible"
  | unknownColumn table column context =>
    "column '" ++ column ++ "' referenced by " ++ context ++ " is not mapped in " ++ table
  | unresolvableField table =>
    "field handle cannot be resolved against the active alias of " ++ table
  | conversion column reason =>
    "cannot convert value for column '" ++ column ++ "': " ++ reason.message
  | tableNotFound table => "table not found: " ++ table
  | upgradeFailed table fromVersion toVersion =>
    "upgrade of " ++ table ++ " from version " ++ Numeral.ofInt fromVersion.toInt ++ " to " ++
      Numeral.ofInt toVersion.toInt ++ " failed"
  | execution message => "execution error: " ++ message
  | config message => "configuration error: " ++ message

end MappingError
end TableMapping
