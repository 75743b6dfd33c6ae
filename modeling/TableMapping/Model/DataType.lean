import TableMapping.FieldValue

/-!
# Data types and default values

`FieldType.dataType?` is the type table: the data type of a column before an engine spells
it, which only the types outside the table lack.

A default value is written into a table as it stands, so it is checked first.  It must be
one quoted literal or hold no quote at all, and a literal must be readable as the type of
the field; text that is neither quoted nor a number is taken for a function or a keyword.
-/

namespace TableMapping

/-- The data type of the columns of a field type; an enumeration follows its encoding. -/
def FieldType.dataType? (t : FieldType) (encoding : Option Encoding) : Option String :=
  match t with
  | .bool => some "BOOLEAN"
  | .tinyInt => some "TINYINT"
  | .smallInt => some "SMALLINT"
  | .int => some "INT"
  | .bigInt => some "BIGINT"
  | .float => some "REAL"
  | .double => some "DOUBLE"
  | .decimal => some "DECIMAL"
  | .string => some "VARCHAR"
  | .bytes => some "BLOB"
  | .date => some "DATE"
  | .time => some "TIME"
  | .dateTime => some "TIMESTAMP"
  | .uuid => some "UUID"
  | .json => some "JSON"
  | .enumeration _ =>
    match encoding.getD .standard with
    | .name => some "VARCHAR"
    | .ordinal | .id => some "INT"
  | .other _ => none

/-- The data type of a type outside the table, where that is allowed. -/
def fallbackDataType : String := "VARCHAR"

namespace DefaultValue

/-- Whether a text stands between two quotes. -/
def isQuoted (cs : List Char) : Bool :=
  2 ≤ cs.length && cs.head? == some '\'' && cs.getLast? == some '\''

/-- Replace every doubled quote by one. -/
def undoubled : List Char → List Char
  | '\'' :: '\'' :: cs => '\'' :: undoubled cs
  | c :: cs => c :: undoubled cs
  | [] => []

/-- The text of a quoted literal. -/
def literal (cs : List Char) : String :=
  String.ofList (undoubled ((cs.drop 1).dropLast))

/-- Whether a default value is a quoted text or holds no quote. -/
def isProperlyFormatted (value : String) : Bool :=
  let cs := Text.trimBoth value.toList
  cs.isEmpty || isQuoted cs || !cs.contains '\''

/-- Whether a quoted literal can be read as a field type. -/
def isReadable (t : FieldType) (encoding : Option Encoding) (literal : String) : Bool :=
  match t with
  | .enumeration e =>
    match encoding.getD .standard with
    | .name => (e.ordinalOf? literal).isSome
    | _ => ((Text.integer? literal).bind int64OfInt?).isSome
  | .string | .other _ | .bytes => true
  | t => (Value.coerce (.text literal) t).isOk

/-- Whether a text starts like a number. -/
def startsNumeric (cs : List Char) : Bool :=
  match cs with
  | c :: _ => c.isDigit || c == '-' || c == '+' || c == '.'
  | [] => false

/-- Whether a default value is acceptable for a field type. -/
def isValid (t : FieldType) (encoding : Option Encoding) (value : String) : Bool :=
  let cs := Text.trimBoth value.toList
  if cs.isEmpty then true
  else if isQuoted cs then isReadable t encoding (literal cs)
  else if t.isNumeric && startsNumeric cs then
    (Value.coerce (.text (String.ofList cs)) t).isOk
  else true

end DefaultValue
end TableMapping
