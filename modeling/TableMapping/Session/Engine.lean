import TableMapping.Sql.Statement

/-!
# Engines

Statements are run by an engine that the application supplies.  An engine is a machine with a
state of its own: for each request it gives an answer and its next state.  It tells
failures as messages, and `MappingError.classify` recognises by their wording the keys that
are stored already and the tables that do not exist.
-/

namespace TableMapping

/-- A row of a result. -/
abbrev Row := List Value

/-- What runs the statements of a session. -/
structure Engine (σ : Type) where
  /-- The name of the product, from which the dialect is chosen. -/
  product : String
  /-- Run a statement; the answer is the number of rows it changed. -/
  execute : Statement → σ → Except MappingError UInt64 × σ
  /-- Run an insertion; the answer is the key that was generated. -/
  insert : Statement → σ → Except MappingError Int64 × σ
  /-- Run a query; the answer is its rows. -/
  query : Statement → σ → Except MappingError (List Row) × σ

/-- A request to bring a table from one version to another. -/
structure Upgrade where
  dialect : Dialect
  schema : Option String
  table : String
  fromVersion : Int32
  toVersion : Int32

/-- What upgrades tables; the answer says whether it succeeded. -/
abbrev Upgrader (σ : Type) := Upgrade → σ → Except MappingError Bool × σ

/-- Whether a message mentions one of some phrases, letter case aside. -/
def mentionsAny (message : String) (phrases : List String) : Bool :=
  let text := Text.foldForSearch message
  phrases.any fun p => Text.occursIn p.toList text

/-- A message that mentions a phrase mentions every part of it. -/
theorem mentionsAny_of_infix {message phrase part : String} {phrases : List String}
    (h : mentionsAny message [phrase] = true) (hpart : part.toList <:+: phrase.toList)
    (hmem : part ∈ phrases) : mentionsAny message phrases = true := by
  rw [mentionsAny, List.any_eq_true]
  refine ⟨part, hmem, ?_⟩
  rw [Text.occursIn_iff]
  have hphrase : phrase.toList <:+: Text.foldForSearch message := by
    simpa [mentionsAny, Text.occursIn_iff] using h
  exact hpart.trans hphrase

/-- The phrases of engines for a key that is stored already. -/
def duplicateKeyPhrases : List String :=
  ["unique constraint", "unique index", "primary key violation", "duplicate key",
    "duplicate entry", "constraint failed: unique", "constraint failed: primary"]

/-- The phrases of engines for a table that does not exist. -/
def tableNotFoundPhrases : List String :=
  ["no such table", "doesn't exist", "does not exist", "table not found",
    "not found; sql statement"]

/-- The phrases of engines for an object that exists already. -/
def alreadyExistsPhrases : List String :=
  ["already exists", "duplicate key name"]

/-- Whether a message tells of a key that is stored already. -/
def isDuplicateKeyMessage (message : String) : Bool :=
  mentionsAny message duplicateKeyPhrases

/-- Whether a message tells of a missing table, and not of a missing column. -/
def isTableNotFoundMessage (message : String) : Bool :=
  mentionsAny message tableNotFoundPhrases && !mentionsAny message ["column"]

/-- Whether a message tells of an object that exists already. -/
def isAlreadyExistsMessage (message : String) : Bool :=
  mentionsAny message alreadyExistsPhrases

/-- The case that a failure of an engine describes; `table` is the table of the statement. -/
def MappingError.classify (table : String) : MappingError → MappingError
  | .execution message =>
    if isDuplicateKeyMessage message then .duplicateKey message
    else if isTableNotFoundMessage message then .tableNotFound table
    else .execution message
  | e => e

end TableMapping
