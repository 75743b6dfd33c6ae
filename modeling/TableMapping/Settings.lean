import TableMapping.Number.Numeral
import TableMapping.Text.Blank
import TableMapping.Text.LetterCase
import TableMapping.Toml.Moment
import TableMapping.Toml.Basic

/-!
# Settings

Settings are gathered from several sources into one tree of tables and lists.  Letter case does
not count in the names of a table, and a table that is set adds to the table that is there.

A source gives each setting under a name such as `mapping.dialect` or `mapping[0]`, which leads
through the tree; a name that is no such path is the name of one entry.

* `Setting.ofToml?` turns a value of a document into a setting;
* `Setting.set` puts a setting where a path leads, and `Setting.setNamed` where a name does.
-/

namespace TableMapping

/-- A tree of settings. -/
inductive Setting where
  /-- The place of an item that only later items of its list have made. -/
  | unset
  | text (s : String)
  | integer (n : Int)
  | real (x : Float)
  | bool (b : Bool)
  | list (items : List Setting)
  | table (entries : List (String × Setting))

namespace Setting

/-- The entries of a table. -/
abbrev Entries := List (String × Setting)

/-- A name in small letters, by which it is known. -/
def nameKey (name : String) : String :=
  String.ofList (Text.foldForSearch name)

/-- Replace the setting with a name, or add it at the end. -/
def put (name : String) (v : Setting) : Entries → Entries
  | [] => [(name, v)]
  | e :: es => if e.1 = name then (name, v) :: es else e :: put name v es

/-- The entries of a table; anything else counts as an empty one. -/
def entries : Setting → Entries
  | table es => es
  | _ => []

/-- The items of a list; anything else counts as an empty one. -/
def items : Setting → List Setting
  | list xs => xs
  | _ => []

/-! ## Adding to a tree -/

mutual

/-- A setting in the place of another one; a table adds to the table that is there. -/
def merge (current : Setting) : Setting → Setting
  | .table es => mergeEntries current es
  | v => v

/-- Add entries to a table, which an empty list of entries does not make. -/
def mergeEntries (current : Setting) : Entries → Setting
  | [] => current
  | (name, v) :: es =>
    let key := nameKey name
    let old := (current.entries.lookup key).getD (.table [])
    mergeEntries (.table (put key (merge old v) current.entries)) es

end

/-- Add an entry to a table. -/
def mergeEntry (current : Setting) (name : String) (v : Setting) : Setting :=
  mergeEntries current [(name, v)]

/-! ## Paths -/

/-- A step of a path: an entry of a table, or an item of a list, which may be counted from the
end. -/
inductive Step where
  | entry (name : String)
  | item (index : Int)
  deriving DecidableEq

/-- The place of an item among `size` items.  From the end, the last one is at `-1`. -/
def place (index : Int) (size : Nat) : Nat :=
  if index < 0 then size - index.natAbs else index.toNat

/-- The items with one replaced; places up to it that are not there are made. -/
def putItem (v : Setting) (place : Nat) (xs : List Setting) : List Setting :=
  (xs ++ List.replicate (place + 1 - xs.length) unset).set place v

/-- Put a setting where a path leads.  What stands in the way of the path gives way to a table or
a list. -/
def set (v : Setting) : List Step → Setting → Setting
  | [], _ => v
  | [.entry name], current => current.mergeEntry name v
  | .entry name :: steps, current =>
    let key := nameKey name
    .table (put key (set v steps ((current.entries.lookup key).getD .unset)) current.entries)
  | .item index :: steps, current =>
    let i := place index current.items.length
    .list (putItem (set v steps (current.items[i]?.getD .unset)) i current.items)

/-- Whether a character may stand in a name of a path. -/
def isNameChar (c : Char) : Bool :=
  c.isAlphanum || c == '_' || c == '-' || c == ' '

/-- Drop blanks and tabs at the front. -/
def skipBlanks (cs : List Char) : List Char :=
  cs.dropWhile fun c => c == ' ' || c == '\t'

/-- Read a name of a path. -/
def readName? (cs : List Char) : Option (Step × List Char) :=
  let name := cs.takeWhile isNameChar
  if name.isEmpty then none else some (.entry (String.ofList name), cs.dropWhile isNameChar)

/-- Read a number of 64 bits and the bracket behind it. -/
def readIndex? (cs : List Char) : Option (Step × List Char) :=
  let (negative, cs) :=
    match skipBlanks cs with
    | '-' :: cs => (true, cs)
    | cs => (false, cs)
  let ds := cs.takeWhile Char.isDigit
  let n := Numeral.valueFrom 0 ds
  match skipBlanks (cs.dropWhile Char.isDigit) with
  | ']' :: rest =>
    if ds.isEmpty || (if negative then 9223372036854775808 else 9223372036854775807) < n then none
    else some (.item (if negative then -(n : Int) else n), rest)
  | _ => none

/-- Read the steps behind the first name. -/
def readSteps? : (bound : Nat) → List Char → Option (List Step)
  | _, [] => some []
  | bound + 1, '.' :: cs => do
    let (step, rest) ← readName? cs
    return step :: (← readSteps? bound rest)
  | bound + 1, '[' :: cs => do
    let (step, rest) ← readIndex? cs
    return step :: (← readSteps? bound rest)
  | _, _ => none

/-- The path that a name is. -/
def path? (name : String) : Option (List Step) := do
  let (step, rest) ← readName? name.toList
  return step :: (← readSteps? rest.length rest)

/-- Put a setting where its name leads. -/
def setNamed (current : Setting) (name : String) (v : Setting) : Setting :=
  set v ((path? name).getD [.entry name]) current

/-! ## Settings in a document -/

/-- The name that marks a table that stands for a moment. -/
def momentName : String :=
  "$__toml_private_datetime"

/-- Whether a table stands for a moment, which its first name says. -/
def isMomentTable (es : Toml.Entries) : Bool :=
  es.head?.any (·.1 == momentName)

/-- The moment that a table stands for; no entry but the first counts. -/
def momentIn? (es : Toml.Entries) : Option Setting :=
  match es.head? with
  | some (_, .text s) =>
    (Toml.Moment.read? Toml.Moment.wide s.toList).map fun cs => text (String.ofList cs)
  | _ => none

mutual

/-- The setting that a value of a document is.  Only a table that should stand for a moment may
be none. -/
def ofToml? : Toml → Option Setting
  | .text s => some (text s)
  | .integer n => some (integer n)
  | .real x => some (real x)
  | .bool b => some (bool b)
  | .moment s => some (text s)
  | .list xs => (ofItems? xs).map list
  | .tables elements => (ofElements? elements).map fun xs => list xs.reverse
  | .table _ es => if isMomentTable es then momentIn? es else (ofEntries? es).map table

/-- The settings that items are. -/
def ofItems? : List Toml → Option (List Setting)
  | [] => some []
  | x :: xs => do return (← ofToml? x) :: (← ofItems? xs)

/-- The entries that entries of a document are. -/
def ofEntries? : Toml.Entries → Option Entries
  | [] => some []
  | (name, v) :: es => do return (name, ← ofToml? v) :: (← ofEntries? es)

/-- The settings that the tables under repeated headers are. -/
def ofElements? : List Toml.Entries → Option (List Setting)
  | [] => some []
  | es :: elements => do
    let rest ← ofElements? elements
    if isMomentTable es then return (← momentIn? es) :: rest
    else return table (← ofEntries? es) :: rest

end

/-- The named settings of a document.  A document is a table, and no moment. -/
def ofDocument? (es : Toml.Entries) : Option Entries :=
  if isMomentTable es then none else ofEntries? es

end Setting
end TableMapping
