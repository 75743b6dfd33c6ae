import TableMapping.Error
import TableMapping.Json.Parser

/-!
# Type adapters

An adapter turns the application's value of a field into the value that is stored, and
back.  It may remember what it was asked before: its answer is a function of the calls it
has served and of the value at hand.

Every field of a built definition has an adapter of its own, which its `AdapterSlot` names.
A `Ledger` is what a run of the mapping has to remember: the calls each adapter has served,
and how many aliases and definitions have been numbered.  Operations that convert values
run in `Mapping`, which keeps the ledger also when a conversion fails.
-/

namespace TableMapping

/-- One request to an adapter. -/
inductive AdapterCall where
  | serialize (v : Value)
  | deserialize (v : Value)

/-- A conversion between application values and stored values.  `history` holds the calls
already served, the latest first. -/
structure Adapter where
  /-- The data type of the column. -/
  dataType : String
  serialize : (history : List AdapterCall) → Value → Except MappingError Value
  deserialize : (history : List AdapterCall) → Value → Except MappingError Value

/-- An adapter whose answers depend on nothing but the value at hand. -/
def Adapter.stateless (dataType : String)
    (serialize deserialize : Value → Except MappingError Value) : Adapter :=
  ⟨dataType, fun _ => serialize, fun _ => deserialize⟩

/-- Which adapter: the definition it was made for, and the position of its field among the
declared fields. -/
structure AdapterSlot where
  build : Nat
  position : Nat
  deriving DecidableEq

/-- What a run of the mapping remembers. -/
structure Ledger where
  /-- The number of the next alias. -/
  nextAlias : UInt64
  /-- How many definitions have been built. -/
  builds : Nat
  /-- The calls that adapters have served, the latest first. -/
  calls : List (AdapterSlot × AdapterCall)

namespace Ledger

/-- Nothing has happened yet. -/
def start : Ledger := ⟨1, 0, []⟩

/-- The calls that one adapter has served, the latest first. -/
def history (l : Ledger) (slot : AdapterSlot) : List AdapterCall :=
  (l.calls.filter fun c => c.1 = slot).map (·.2)

/-- Note a call. -/
def record (l : Ledger) (slot : AdapterSlot) (call : AdapterCall) : Ledger :=
  { l with calls := (slot, call) :: l.calls }

end Ledger

/-- A computation of the mapping: it may fail, and it keeps the ledger. -/
abbrev Mapping := ExceptT MappingError (StateM Ledger)

namespace Mapping

/-- An answer that needs no ledger. -/
def ofExcept {α : Type} (x : Except MappingError α) : Mapping α :=
  ExceptT.mk (pure x)

/-- Take the number of the next alias. -/
def nextAlias : Mapping UInt64 := do
  let l ← get
  set { l with nextAlias := l.nextAlias + 1 }
  return l.nextAlias

/-- Take the number of the next definition. -/
def nextBuild : Mapping Nat := do
  let l ← get
  set { l with builds := l.builds + 1 }
  return l.builds

/-- Ask an adapter for the stored form of a value. -/
def serialize (slot : AdapterSlot) (a : Adapter) (v : Value) : Mapping Value := do
  let l ← get
  set (l.record slot (.serialize v))
  ofExcept (a.serialize (l.history slot) v)

/-- Ask an adapter for the application's form of a stored value. -/
def deserialize (slot : AdapterSlot) (a : Adapter) (v : Value) : Mapping Value := do
  let l ← get
  set (l.record slot (.deserialize v))
  ofExcept (a.deserialize (l.history slot) v)

end Mapping

namespace Adapter

/-- The stored form of a document: its compact text. -/
def documentToText : Value → Except MappingError Value
  | .of (.json j) => .ok (.text j.print)
  | .null .json => .ok (.null .string)
  | v => .error (.conversion "json" (.expectedDocument v))

/-- The document a stored text holds. -/
def documentOfText : Value → Except MappingError Value
  | .of (.string s) =>
    match Json.parse? s with
    | some j => .ok (.of (.json j))
    | none => .error (.conversion "json" (.malformed "document"))
  | .null .string => .ok (.null .json)
  | v => .error (.conversion "json" (.expectedText v))

/-- Documents in a column of texts. -/
def jsonText : Adapter :=
  stateless "TEXT" documentToText documentOfText

end Adapter
end TableMapping
