import TableMapping.FieldType

/-!
# Notices

What the mapping tells without failing: an index that an engine cannot organise as asked, a
default value that is left out, a stored version that is ahead of the declared one, and the
course of a session.
-/

namespace TableMapping

/-- A warning. -/
inductive Notice where
  /-- The engine has no hash indexes. -/
  | hashUnsupported (dialect index : String)
  /-- The engine has hash indexes over one column and without uniqueness only. -/
  | hashRestricted (index : String)
  /-- A default value is not written as a literal or a function. -/
  | defaultMalformed (value table column : String)
  /-- A default value does not belong to the type of its field. -/
  | defaultInvalid (value table column type : String)
  /-- The stored version is ahead. -/
  | storedVersionNewer (stored : Int32) (table : String) (declared : Int32)

/-- The wording of a warning. -/
def Notice.message : Notice → String
  | hashUnsupported dialect index =>
    dialect ++ " does not support hash indexes; creating " ++ index ++ " as a regular index"
  | hashRestricted index =>
    "PostgreSQL hash indexes must be single-column and non-unique; creating " ++ index ++
      " as a btree index"
  | defaultMalformed value table column =>
    "Ignoring improperly formatted default value " ++ value ++ " for " ++ table ++ "." ++ column
  | defaultInvalid value table column type =>
    "Ignoring default value " ++ value ++ " for " ++ table ++ "." ++ column ++
      ": not a valid " ++ type
  | storedVersionNewer stored table declared =>
    "Stored version " ++ Numeral.ofInt stored.toInt ++ " of " ++ table ++
      " is newer than the declared version " ++ Numeral.ofInt declared.toInt

/-- A line of the log of a session. -/
inductive LogLine where
  | warning (n : Notice)
  /-- A session has been opened. -/
  | opened (product dialect : String)
  /-- A table is about to be upgraded. -/
  | upgrading (table : String) (fromVersion toVersion : Int32)
  /-- A statement is about to be sent. -/
  | statement (kind sql : String)

/-- The level of a log line and its wording. -/
def LogLine.parts : LogLine → String × String
  | warning n => ("WARN", n.message)
  | opened product dialect =>
    ("INFO", "Opened session for " ++ product ++ " using the " ++ dialect ++ " dialect")
  | upgrading table fromVersion toVersion =>
    ("INFO", "Upgrading " ++ table ++ " from version " ++ Numeral.ofInt fromVersion.toInt ++ " to " ++
      Numeral.ofInt toVersion.toInt)
  | statement kind sql => ("SQL", kind ++ " " ++ sql)

/-- A log line as it is written. -/
def LogLine.text (l : LogLine) : String :=
  l.parts.1 ++ " " ++ l.parts.2

end TableMapping
