/-!
# Configuration documents

A configuration document is a table of keys and values; values are texts, numbers, truth values,
moments, lists and tables.

The format allows a table to be written in several places, but not every combination of them:
a table with a header of its own gets no second header, and dotted keys add only to tables that
dotted keys have made.  So a table remembers its `Origin`, and `Toml.addHeader`,
`Toml.addElement` and `Toml.addEntry` refuse what the format does not allow.
-/

namespace TableMapping

/-- How a table came to be. -/
inductive TableOrigin where
  /-- By a header of its own, or as the table of the whole document. -/
  | header
  /-- By the header of a table inside it. -/
  | implied
  /-- By a dotted key. -/
  | dotted
  /-- By a pair of braces. -/
  | inline
  deriving DecidableEq, Repr

/-- A value of a configuration document. -/
inductive Toml where
  | text (s : String)
  | integer (n : Int)
  | real (x : Float)
  | bool (b : Bool)
  /-- A date, a time of day or both, in its usual form. -/
  | moment (s : String)
  | list (items : List Toml)
  /-- The tables under repeated headers, the latest first. -/
  | tables (elements : List (List (String × Toml)))
  | table (origin : TableOrigin) (entries : List (String × Toml))

namespace Toml

/-- The entries of a table. -/
abbrev Entries := List (String × Toml)

/-- Replace the value of a key, or add the key at the end. -/
def put (key : String) (v : Toml) : Entries → Entries
  | [] => [(key, v)]
  | e :: es => if e.1 = key then (key, v) :: es else e :: put key v es

/-- Change the table at a path.  Tables that are missing on the way are made, by dotted keys or
by a header; a header leads into the latest of repeated tables, and dotted keys do not lead
through a table that has a header. -/
def change (dotted : Bool) (act : TableOrigin → Entries → Option (TableOrigin × Entries)) :
    List String → TableOrigin → Entries → Option (TableOrigin × Entries)
  | [], origin, es => act origin es
  | key :: keys, origin, es =>
    match es.lookup key with
    | none => do
      let (o, inner) ← change dotted act keys (if dotted then .dotted else .implied) []
      return (origin, put key (.table o inner) es)
    | some (.table o inner) =>
      if o = .inline || (dotted && o = .header) then none
      else do
        let (o, inner) ← change dotted act keys o inner
        return (origin, put key (.table o inner) es)
    | some (.tables (latest :: earlier)) => do
      let (_, latest) ← change dotted act keys .header latest
      return (origin, put key (.tables (latest :: earlier)) es)
    | some _ => none

/-- Add an entry to a table that has no such key.  Where the entry has a dotted key, the table
must be one that dotted keys make. -/
def addTo (isDotted : Bool) (key : String) (v : Toml) (origin : TableOrigin) (es : Entries) :
    Option (TableOrigin × Entries) :=
  if (isDotted && origin != .dotted) || (es.lookup key).isSome then none
  else some (origin, es ++ [(key, v)])

/-- Add an entry with a path of keys to a table. -/
def addEntry (path : List String) (key : String) (v : Toml) (origin : TableOrigin) (es : Entries) :
    Option (TableOrigin × Entries) :=
  change true (addTo (!path.isEmpty) key v) path origin es

/-- Add the header of a table. -/
def addHeader (key : String) (origin : TableOrigin) (es : Entries) : Option (TableOrigin × Entries) :=
  match es.lookup key with
  | none => some (origin, es ++ [(key, .table .header [])])
  | some (.table .implied inner) => some (origin, put key (.table .header inner) es)
  | some _ => none

/-- Add a table under a repeated header. -/
def addElement (key : String) (origin : TableOrigin) (es : Entries) : Option (TableOrigin × Entries) :=
  match es.lookup key with
  | none => some (origin, es ++ [(key, .tables [[]])])
  | some (.tables elements) => some (origin, put key (.tables ([] :: elements)) es)
  | some _ => none

end Toml
end TableMapping
