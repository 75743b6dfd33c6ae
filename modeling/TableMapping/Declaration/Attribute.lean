import TableMapping.Declaration.Path

/-!
# Attributes and items

An attribute stands in front of what it describes, in `#[…]`: a path, and possibly a group or a
literal.  The group of an attribute holds entries with commas between them, each a path with
or without a literal.

An item is a declaration with its attributes: a structure with fields or an enumeration with
members.

* `Attribute.ofTokens?` reads one attribute, `attributes?` those in front of something;
* `entries` reads the entries of a group as far as they can be read;
* `Item.ofText?` reads an item.
-/

namespace TableMapping
namespace Declaration

/-- Read a literal at the front of tokens.  A number may have a sign. -/
def literal? : List Token → Option (Literal × List Token)
  | .literal l _ :: ts => some (l, ts)
  | .mark '-' _ :: .literal (.integer _ n) _ :: ts => some (.integer true n, ts)
  | .mark '-' _ :: .literal .real _ :: ts => some (.real, ts)
  | .name "true" :: ts => some (.bool true, ts)
  | .name "false" :: ts => some (.bool false, ts)
  | _ => none

/-- Read words at the front of tokens, with double colons between them. -/
def words? : List Token → Option (List String × List Token)
  | .name s :: .mark ':' true :: .mark ':' _ :: ts =>
    (words? ts).map fun (names, rest) => (s :: names, rest)
  | .name s :: ts => some ([s], ts)
  | _ => none

/-- Read a path at the front of tokens.  It has a name when it is one word, without a double
colon before it. -/
def pathName? : List Token → Option (Option String × List Token)
  | .mark ':' true :: .mark ':' _ :: ts => (words? ts).map fun (_, rest) => (none, rest)
  | ts =>
    (words? ts).map fun (names, rest) =>
      match names with
      | [name] => (some name, rest)
      | _ => (none, rest)

/-! ## Attributes -/

/-- What stands behind the path of an attribute. -/
inductive AttributeInput where
  | none
  | group (tokens : List Token)
  | literal (l : Literal)
  /-- An equals sign and something that is not a literal. -/
  | expression

/-- An attribute.  Its name is missing when its path is not one name. -/
structure Attribute where
  name : Option String
  input : AttributeInput

namespace Attribute

/-- Whether an attribute has this name. -/
def isNamed (a : Attribute) (name : String) : Bool :=
  a.name == some name

/-- Read the tokens behind the path of an attribute. -/
def inputOfTokens? : List Token → Option AttributeInput
  | [] => some .none
  | [.group _ inner] => some (.group inner)
  | .mark '=' _ :: t :: ts =>
    match literal? (t :: ts) with
    | some (l, []) => some (.literal l)
    | _ => some .expression
  | _ => none

/-- Read an attribute from the tokens between its brackets. -/
def ofTokens? (ts : List Token) : Option Attribute := do
  let (name, rest) ← pathName? ts
  return ⟨name, ← inputOfTokens? rest⟩

end Attribute

/-- Read the attributes at the front of tokens. -/
def attributes? : List Token → Option (List Attribute × List Token)
  | .mark '#' _ :: .group '[' inner :: ts => do
    let a ← Attribute.ofTokens? inner
    let (as, rest) ← attributes? ts
    return (a :: as, rest)
  | ts => some ([], ts)

/-! ## Entries -/

/-- What stands behind the path of an entry. -/
inductive EntryInput where
  | none
  | literal (l : Literal)
  /-- An equals sign and something that is not a literal. -/
  | unreadable

/-- An entry of an attribute.  Its name is missing when its path is not one name. -/
structure Entry where
  name : Option String
  input : EntryInput

/-- Read what stands behind the path of an entry, and whether the entry ends there. -/
def entryInput : List Token → EntryInput × Bool
  | [] => (.none, true)
  | .mark '=' _ :: ts =>
    match literal? ts with
    | some (l, rest) => (.literal l, rest.isEmpty)
    | none => (.unreadable, false)
  | _ => (.none, false)

/-- Read an entry, and whether it ends as it should. -/
def entry? (ts : List Token) : Option (Entry × Bool) :=
  (pathName? ts).map fun (name, rest) => (⟨name, (entryInput rest).1⟩, (entryInput rest).2)

/-- The entries of segments up to the first fault, and whether there is none.  The last segment
may be empty. -/
def entriesOfSegments : List (List Token) → List Entry × Bool
  | [] => ([], true)
  | [[]] => ([], true)
  | segment :: segments =>
    match entry? segment with
    | some (e, true) =>
      let (es, good) := entriesOfSegments segments
      (e :: es, good)
    | some (e, false) => ([e], false)
    | none => ([], false)

/-- Whether a token is a comma. -/
def isComma : Token → Bool
  | .mark c _ => c == ','
  | _ => false

/-- The entries of a group up to the first fault, and whether there is none. -/
def entries (ts : List Token) : List Entry × Bool :=
  entriesOfSegments (Text.runs isComma ts)

/-! ## Items -/

/-- A field of a structure or a member of an enumeration.  The fields of a structure may be without
names. -/
structure ItemMember where
  name : Option String
  attributes : List Attribute

/-- The fields of a structure or the members of an enumeration. -/
inductive ItemBody where
  | fields (ms : List ItemMember)
  | members (ms : List ItemMember)

/-- A declaration. -/
structure Item where
  attributes : List Attribute
  body : ItemBody

/-- Drop a visibility at the front of tokens. -/
def dropVisibility : List Token → List Token
  | .name "pub" :: .group '(' _ :: ts => ts
  | .name "pub" :: ts => ts
  | ts => ts

/-- Put a token in front of the first segment. -/
def consToFirst (t : Token) : List (List Token) → List (List Token)
  | [] => [[t]]
  | segment :: segments => (t :: segment) :: segments

/-- The tokens between commas that do not stand between angle brackets, `depth` of which are
open.  The arrow of a function type closes none. -/
def fieldSegments (depth : Nat) : List Token → List (List Token)
  | [] => [[]]
  | .mark '-' true :: .mark '>' joined :: ts =>
    consToFirst (.mark '-' true) (consToFirst (.mark '>' joined) (fieldSegments depth ts))
  | t :: ts =>
    match t with
    | .mark '<' _ => consToFirst t (fieldSegments (depth + 1) ts)
    | .mark '>' _ => consToFirst t (fieldSegments (depth - 1) ts)
    | .mark ',' _ =>
      if depth = 0 then [] :: fieldSegments 0 ts else consToFirst t (fieldSegments depth ts)
    | t => consToFirst t (fieldSegments depth ts)

/-- Read a field with a name, which a colon and its type follow. -/
def namedField? (ts : List Token) : Option ItemMember := do
  let (attributes, rest) ← attributes? ts
  match dropVisibility rest with
  | .name s :: .mark ':' _ :: _ => return ⟨some s, attributes⟩
  | _ => none

/-- Read a field without a name. -/
def placedField? (ts : List Token) : Option ItemMember :=
  (attributes? ts).map fun (attributes, _) => ⟨none, attributes⟩

/-- Read each field between commas; the last comma need not be followed by one. -/
def readFields? (read : List Token → Option ItemMember) (ts : List Token) : Option (List ItemMember) :=
  ((fieldSegments 0 ts).filter fun segment => !segment.isEmpty).mapM read

/-- Read the fields of a structure behind its name.  Its parameters stand between angle brackets,
`depth` of which are open; round brackets behind its conditions are not its fields. -/
def fields? (depth : Nat) (conditions : Bool) : List Token → Option (List ItemMember)
  | [] => some []
  | .mark '-' true :: .mark '>' _ :: ts => fields? depth conditions ts
  | .mark '<' _ :: ts => fields? (depth + 1) conditions ts
  | .mark '>' _ :: ts => fields? (depth - 1) conditions ts
  | .group opening inner :: ts =>
    if depth = 0 && opening == '\x7b' then readFields? namedField? inner
    else if depth = 0 && opening == '(' && !conditions then readFields? placedField? inner
    else fields? depth conditions ts
  | t :: ts => fields? depth (conditions || Token.startsWithWord "where" [t]) ts

/-- Drop the value of a member, which an equals sign announces.  One that cannot be read goes on to
the next comma. -/
def dropValue : List Token → List Token
  | .mark '=' _ :: ts =>
    ((readExpression (boundOf ts) ts).map (·.2)).getD (ts.dropWhile fun t => !isComma t)
  | ts => ts

/-- Drop what a member holds. -/
def dropContents : List Token → List Token
  | .group _ _ :: ts => ts
  | ts => ts

/-- Read a member of an enumeration. -/
def member? (ts : List Token) : Option (ItemMember × List Token) := do
  let (attributes, rest) ← attributes? ts
  match dropVisibility rest with
  | .name s :: rest => return (⟨some s, attributes⟩, dropValue (dropContents rest))
  | _ => none

/-- Read at most `bound` members of an enumeration, with commas between them. -/
def members? : (bound : Nat) → List Token → Option (List ItemMember)
  | _, [] => some []
  | 0, _ => none
  | bound + 1, ts => do
    match ← member? ts with
    | (m, []) => return [m]
    | (m, .mark ',' _ :: rest) => return m :: (← members? bound rest)
    | _ => none

/-- The tokens between the braces of an enumeration, behind its parameters; `depth` angle
brackets are open. -/
def braced? (depth : Nat) : List Token → Option (List Token)
  | [] => none
  | .mark '-' true :: .mark '>' _ :: ts => braced? depth ts
  | .mark '<' _ :: ts => braced? (depth + 1) ts
  | .mark '>' _ :: ts => braced? (depth - 1) ts
  | .group opening inner :: ts => if depth = 0 && opening == '\x7b' then some inner else braced? depth ts
  | _ :: ts => braced? depth ts

/-- Read the body of an item. -/
def body? : List Token → Option ItemBody
  | .name "struct" :: ts => (fields? 0 false ts).map .fields
  | .name "enum" :: ts => do
    let inner ← braced? 0 ts
    return .members (← members? inner.length inner)
  | _ => none

/-- Read an item. -/
def Item.ofText? (s : String) : Option Item := do
  let (attributes, rest) ← attributes? (← Token.ofText? s)
  return ⟨attributes, ← body? (dropVisibility rest)⟩

end Declaration
end TableMapping
