import TableMapping.Toml.Scalar
import TableMapping.Toml.Text

/-!
# Reading configuration documents

A document is read line by line.  A line is empty, a header, a repeated header, or an entry; any
of them may end in a comment.  A value in brackets may run over several lines.

* `readValue?` reads a value, with a bound on how deep lists and tables nest;
* `readLines?` reads the lines, and `Toml.parse?` puts them together to a table.
-/

namespace TableMapping
namespace Toml

/-! ## Blanks and comments -/

/-- Drop a comment at the front, up to the end of the line. -/
def skipComment? : List Char → Option (List Char)
  | '#' :: cs =>
    let rest := cs.dropWhile isPlain
    match rest with
    | [] => some []
    | '\n' :: _ => some rest
    | '\r' :: '\n' :: _ => some rest
    | _ => none
  | cs => some cs

/-- Drop blanks, line breaks and comments, at most `bound` of them. -/
def skipLines? : (bound : Nat) → List Char → Option (List Char)
  | 0, cs => some cs
  | bound + 1, cs =>
    match skipGaps cs with
    | '\n' :: rest => skipLines? bound rest
    | '\r' :: '\n' :: rest => skipLines? bound rest
    | '#' :: rest => do skipLines? bound (← skipComment? ('#' :: rest))
    | rest => some rest

/-- Read the end of a line: blanks, a comment, and a line break or the end of the document. -/
def readLineEnd? (cs : List Char) : Option (List Char) := do
  match ← skipComment? (skipGaps cs) with
  | [] => return []
  | '\n' :: rest => return rest
  | '\r' :: '\n' :: rest => return rest
  | _ => none

/-! ## Values -/

/-- A reader of values. -/
abbrev Reader := List Char → Option (Toml × List Char)

/-- Read the items of a list up to the closing bracket. -/
def readItems? (item : Reader) : (bound : Nat) → List Char → Option (List Toml × List Char)
  | 0, _ => none
  | bound + 1, cs => do
    let cs ← skipLines? cs.length cs
    match cs with
    | ']' :: rest => return ([], rest)
    | cs =>
      let (x, rest) ← item cs
      match ← skipLines? rest.length rest with
      | ',' :: rest =>
        let (xs, rest) ← readItems? item bound rest
        return (x :: xs, rest)
      | ']' :: rest => return ([x], rest)
      | _ => none

/-- How deep values in brackets nest, and how many keys a path has. -/
def maxLevels : Nat := 79

/-- Read an entry: a path of keys, an equals sign and a value. -/
def readEntry? (item : Reader) (cs : List Char) :
    Option ((List String × String × Toml) × List Char) := do
  let ((path, key), rest) ← readPath? maxLevels cs
  let rest ← Calendar.readMark? '=' rest
  let (v, rest) ← item (skipGaps rest)
  return ((path, key, v), rest)

/-- Read entries on one line up to the closing brace, from one entry on. -/
def readEntries? (item : Reader) (es : Entries) :
    (bound : Nat) → List Char → Option (Entries × List Char)
  | 0, _ => none
  | bound + 1, cs => do
    let ((path, key, v), rest) ← readEntry? item cs
    let (_, es) ← addEntry path key v .header es
    match skipGaps rest with
    | ',' :: rest => readEntries? item es bound rest
    | '\x7d' :: rest => return (es, rest)
    | _ => none

/-- Read a text or a word. -/
def readPlainValue? (cs : List Char) : Option (Toml × List Char) :=
  match cs with
  | '"' :: _ => (readText? cs).map fun (s, rest) => (.text (String.ofList s), rest)
  | '\'' :: _ => (readText? cs).map fun (s, rest) => (.text (String.ofList s), rest)
  | cs => do
    let (word, rest) := splitWord cs
    return (← word? word, rest)

/-- Read a value in which brackets nest at most `levels` deep. -/
def readValue? : (levels : Nat) → Reader
  | 0, cs => readPlainValue? cs
  | levels + 1, cs =>
    match cs with
    | '[' :: cs => (readItems? (readValue? levels) (cs.length + 1) cs).map fun (xs, rest) => (.list xs, rest)
    | '\x7b' :: cs =>
      match skipGaps cs with
      | '\x7d' :: rest => some (.table .inline [], rest)
      | cs =>
        (readEntries? (readValue? levels) [] cs.length cs).map fun (es, rest) => (.table .inline es, rest)
    | cs => readPlainValue? cs

/-! ## Lines -/

/-- A line that says something. -/
inductive Line where
  | header (path : List String) (key : String)
  | element (path : List String) (key : String)
  | entry (path : List String) (key : String) (v : Toml)

/-- Read a line from its first character on. -/
def readLine? : List Char → Option (Line × List Char)
  | '[' :: '[' :: cs => do
    let ((path, key), rest) ← readPath? maxLevels cs
    match rest with
    | ']' :: ']' :: rest => return (.element path key, rest)
    | _ => none
  | '[' :: cs => do
    let ((path, key), rest) ← readPath? maxLevels cs
    match rest with
    | ']' :: rest => return (.header path key, rest)
    | _ => none
  | cs => do
    let ((path, key, v), rest) ← readEntry? (readValue? maxLevels) cs
    return (.entry path key v, rest)

/-- Read at most `bound` lines. -/
def readLines? : (bound : Nat) → List Char → Option (List Line)
  | 0, _ => none
  | bound + 1, cs => do
    match ← skipLines? cs.length cs with
    | [] => return []
    | cs =>
      let (line, rest) ← readLine? cs
      let lines ← readLines? bound (← readLineEnd? rest)
      return line :: lines

/-! ## Documents -/

/-- A document that is being put together: its entries, and the path of the table whose header
was read last. -/
structure Draft where
  entries : Entries
  current : List String

/-- Take a line over. -/
def Draft.take (d : Draft) : Line → Option Draft
  | .header path key => do
    let (_, es) ← change false (addHeader key) path .header d.entries
    return ⟨es, path ++ [key]⟩
  | .element path key => do
    let (_, es) ← change false (addElement key) path .header d.entries
    return ⟨es, path ++ [key]⟩
  | .entry path key v => do
    let (_, es) ← change false (addEntry path key v) d.current .header d.entries
    return { d with entries := es }

/-- The entries of the document that a text is. -/
def parse? (s : String) : Option Entries := do
  let cs := Text.dropByteOrderMark s.toList
  let lines ← readLines? (cs.length + 1) cs
  let d ← lines.foldlM Draft.take ⟨[], []⟩
  return d.entries

end Toml
end TableMapping
