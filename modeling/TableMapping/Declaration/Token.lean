import TableMapping.Text.Blank
import TableMapping.Text.Hex
import TableMapping.Text.NameChars

/-!
# Tokens of a declaration

A model or an enumeration may be declared in source text.  The text is read into tokens: names,
literals and single marks.  Blanks and comments stand between tokens; a comment that documents
what follows is an attribute.  Brackets are then matched, and what stands between two of them is
one token, a group.

A mark knows whether another mark follows at once, for marks of several characters, such as a
double colon, may not be torn apart.  A literal keeps its spelling.

* `readTokens?` reads the characters, and `readToken?` those of one token;
* `groupFrom` matches the brackets; its state is the groups that are still open.
* `Token.ofText?` does both.
-/

namespace TableMapping
namespace Declaration

/-- A literal. -/
inductive Literal where
  | text (s : String)
  | integer (negative : Bool) (magnitude : Nat)
  | bool (b : Bool)
  /-- A number that is not whole. -/
  | real
  /-- A character, or bytes. -/
  | other
  deriving DecidableEq

/-- A token. -/
inductive Token where
  | name (s : String)
  /-- A name behind a quote, which is part of the spelling. -/
  | lifetime (s : String)
  | literal (l : Literal) (spelling : String)
  /-- A mark, and whether another mark follows at once. -/
  | mark (c : Char) (joined : Bool)
  /-- What stands behind an opening bracket, up to the one that closes it. -/
  | group (opening : Char) (inner : List Token)

/-! ## Blanks and comments -/

/-- Whether a character stands between tokens: a blank, or a mark of the writing direction. -/
def isSpace (c : Char) : Bool :=
  Text.isBlank c || c == '\u200e' || c == '\u200f'

/-- Read a block comment up to its end.  Comments nest, and `depth` more of them are open. -/
def readBlock? : (depth : Nat) → List Char → Option (List Char × List Char)
  | _, [] => none
  | depth, '/' :: '*' :: cs => (readBlock? (depth + 1) cs).map fun (s, rest) => ('/' :: '*' :: s, rest)
  | 0, '*' :: '/' :: cs => some ([], cs)
  | depth + 1, '*' :: '/' :: cs => (readBlock? depth cs).map fun (s, rest) => ('*' :: '/' :: s, rest)
  | depth, c :: cs => (readBlock? depth cs).map fun (s, rest) => (c :: s, rest)

/-- The tokens of a comment.  One that begins with the sign of its kind once more, but not
twice, is an attribute. -/
def commentTokens (sign : Char) (body : List Char) : List Token :=
  let documents :=
    match body with
    | c :: d :: _ => c == sign && d != sign
    | [c] => c == sign
    | [] => false
  if documents then
    let text := String.ofList (body.drop 1)
    [.mark '#' false, .mark '[' false, .name "doc", .mark '=' false, .literal (.text text) text,
      .mark ']' false]
  else []

/-- Read a comment. -/
def readComment? : List Char → Option (List Token × List Char)
  | '/' :: '/' :: cs => some (commentTokens '/' (cs.takeWhile (· != '\n')), cs.dropWhile (· != '\n'))
  | '/' :: '*' :: cs => (readBlock? 0 cs).map fun (body, rest) => (commentTokens '*' body, rest)
  | _ => none

/-! ## Names -/

/-- Read a name. -/
def readWord? : List Char → Option (List Char × List Char)
  | c :: cs =>
    if Text.isNameStart c then some (c :: cs.takeWhile Text.isNamePart, cs.dropWhile Text.isNamePart)
    else none
  | [] => none

/-- Names that are reserved under all circumstances. -/
def alwaysReserved : List (List Char) :=
  ["_", "super", "self", "Self", "crate"].map String.toList

/-- Read a name.  A mark in front of it allows a reserved one. -/
def readName? : List Char → Option (List Char × List Char)
  | 'r' :: '#' :: cs => do
    let (word, rest) ← readWord? cs
    if alwaysReserved.contains word then none else return ('r' :: '#' :: word, rest)
  | cs => readWord? cs

/-- Read a name behind a quote.  No quote follows it. -/
def readLifetime? : List Char → Option (List Char × List Char)
  | '\'' :: cs => do
    let (word, rest) ← readName? cs
    if rest.head? = some '\'' then none else return ('\'' :: word, rest)
  | _ => none

/-! ## Texts -/

/-- What an escape of one character stands for. -/
def escaped? : Char → Option Char
  | 'n' => some '\n'
  | 't' => some '\t'
  | 'r' => some '\r'
  | '0' => some (Char.ofNat 0)
  | '\\' => some '\\'
  | '"' => some '"'
  | '\'' => some '\''
  | _ => none

/-- The number that digits of base sixteen make. -/
def hexNumber (cs : List Char) : Nat :=
  (cs.filterMap Text.hexValue?).foldl (fun n d => 16 * n + d) 0

/-- Read the rest of an escape in braces: a code point of at most six digits. -/
def readCodePoint? (cs : List Char) : Option (Char × List Char) :=
  let isPart := fun c => c == '_' || (Text.hexValue? c).isSome
  let ds := cs.takeWhile isPart
  let width := (ds.filter (· != '_')).length
  match cs.dropWhile isPart with
  | '\x7d' :: rest =>
    if ds.head? = some '_' || width = 0 || 6 < width || !(hexNumber ds).isValidChar then none
    else some (Char.ofNat (hexNumber ds), rest)
  | _ => none

/-- Read an escape behind its backslash. -/
def readEscape? : List Char → Option (Char × List Char)
  | 'x' :: a :: b :: cs =>
    match Text.hexValue? a, Text.hexValue? b with
    | some high, some low => if high < 8 then some (Char.ofNat (16 * high + low), cs) else none
    | _, _ => none
  | 'u' :: '\x7b' :: cs => readCodePoint? cs
  | c :: cs => (escaped? c).map fun c => (c, cs)
  | [] => none

/-- Whether a character is passed over at the start of a line that continues a text. -/
def isMargin (c : Char) : Bool :=
  c == ' ' || c == '\t' || c == '\n' || c == '\r'

/-- Read a text up to the quote that closes it, in at most `bound` steps. -/
def readText? : (bound : Nat) → List Char → Option (List Char × List Char)
  | 0, _ => none
  | _ + 1, [] => none
  | _ + 1, '"' :: rest => some ([], rest)
  | bound + 1, '\\' :: '\n' :: cs => readText? bound (cs.dropWhile isMargin)
  | bound + 1, '\\' :: cs => do
    let (c, cs) ← readEscape? cs
    let (s, rest) ← readText? bound cs
    return (c :: s, rest)
  | bound + 1, '\r' :: cs =>
    match cs with
    | '\n' :: cs => (readText? bound cs).map fun (s, rest) => ('\n' :: s, rest)
    | _ => none
  | bound + 1, c :: cs => (readText? bound cs).map fun (s, rest) => (c :: s, rest)

/-- Read a text without escapes up to a quote with these marks behind it. -/
def readPlain? (marks : List Char) : List Char → Option (List Char × List Char)
  | [] => none
  | c :: cs =>
    if c == '"' && marks.isPrefixOf cs then some ([], cs.drop marks.length)
    else (readPlain? marks cs).map fun (s, rest) => (c :: s, rest)

/-- Read a text without escapes from the marks in front of it on. -/
def readRaw? (cs : List Char) : Option (List Char × List Char) :=
  let marks := cs.takeWhile (· == '#')
  match cs.dropWhile (· == '#') with
  | '"' :: cs => readPlain? marks cs
  | _ => none

/-- Read a character and the quote that closes it. -/
def readCharacter? (cs : List Char) : Option (List Char) := do
  let rest ←
    match cs with
    | '\\' :: cs => (readEscape? cs).map (·.2)
    | _ :: cs => some cs
    | [] => none
  match rest with
  | '\'' :: rest => return rest
  | _ => none

/-- Read a literal in quotes. -/
def readQuoted? : List Char → Option (Literal × List Char)
  | '"' :: cs => (readText? (cs.length + 1) cs).map fun (s, rest) => (.text (String.ofList s), rest)
  | 'r' :: cs => (readRaw? cs).map fun (s, rest) => (.text (String.ofList s), rest)
  | '\'' :: cs => (readCharacter? cs).map fun rest => (.other, rest)
  | 'b' :: '\'' :: cs => (readCharacter? cs).map fun rest => (.other, rest)
  | 'b' :: '"' :: cs => (readText? (cs.length + 1) cs).map fun (_, rest) => (.other, rest)
  | 'c' :: '"' :: cs => (readText? (cs.length + 1) cs).map fun (_, rest) => (.other, rest)
  | 'b' :: 'r' :: cs => (readRaw? cs).map fun (_, rest) => (.other, rest)
  | 'c' :: 'r' :: cs => (readRaw? cs).map fun (_, rest) => (.other, rest)
  | _ => none

/-- How a literal in quotes starts when it does not start with a quote. -/
def quotedStarts : List (List Char) :=
  ["r\"", "r#\"", "r##", "b\"", "b'", "br\"", "br#", "c\"", "cr\"", "cr#"].map String.toList

/-! ## Numbers -/

/-- The base that the front of a number announces, and the characters behind it. -/
def numberBase : List Char → Nat × List Char
  | '0' :: 'x' :: cs => (16, cs)
  | '0' :: 'o' :: cs => (8, cs)
  | '0' :: 'b' :: cs => (2, cs)
  | cs => (10, cs)

/-- The value of a digit in a base. -/
def digitValue? (base : Nat) (c : Char) : Option Nat :=
  (Text.hexValue? c).filter (· < base)

/-- The number that digits make; underscores between them do not count. -/
def digitsValue (base : Nat) (cs : List Char) : Nat :=
  (cs.filterMap (digitValue? base)).foldl (fun n d => n * base + d) 0

/-- Whether a character may stand among the digits of a number. -/
def isDigitPart (base : Nat) (c : Char) : Bool :=
  c == '_' || c.isDigit || (digitValue? base c).isSome

/-- What the suffix of a whole number leaves it. -/
def wholeNumber (value : Nat) : List Char → Literal
  | c :: _ => if c == 'e' || c == 'E' || c == 'f' then .real else .integer false value
  | [] => .integer false value

/-- Read the digits of a whole number. -/
def readWhole? (cs : List Char) : Option (Literal × List Char) :=
  let (base, cs) := numberBase cs
  let ds := cs.takeWhile (isDigitPart base)
  let rest := cs.dropWhile (isDigitPart base)
  if ds.all fun c => c == '_' || (digitValue? base c).isSome then
    if ds.all (· == '_') then none else some (wholeNumber (digitsValue base ds) rest, rest)
  else none

/-- Drop the digits of an exponent, of which there is at least one. -/
def dropExponent? (cs : List Char) : Option (List Char) :=
  let cs :=
    match cs.dropWhile (· == '_') with
    | '+' :: cs => cs
    | '-' :: cs => cs
    | cs => cs
  if (cs.takeWhile (isDigitPart 10)).any Char.isDigit then some (cs.dropWhile (isDigitPart 10)) else none

/-- Drop an exponent, if there is one. -/
def dropExponentPart? : List Char → Option (List Char)
  | c :: cs => if c == 'e' || c == 'E' then dropExponent? cs else none
  | [] => none

/-- Drop the digits of a number with a fraction, an exponent or both. -/
def dropReal? (cs : List Char) : Option (List Char) :=
  match cs.dropWhile (isDigitPart 10) with
  | '.' :: rest =>
    if rest.head?.any fun c => c == '.' || Text.isNameStart c then none
    else
      let rest := rest.dropWhile (isDigitPart 10)
      some ((dropExponentPart? rest).getD rest)
  | rest => dropExponentPart? rest

/-- Drop a name that follows a literal at once. -/
def dropSuffix (cs : List Char) : List Char :=
  ((readWord? cs).map (·.2)).getD cs

/-- Read a number with its suffix, behind which no name goes on. -/
def readNumber? (cs : List Char) : Option (Literal × List Char) := do
  if !(cs.head?.any Char.isDigit) then none
  let (l, rest) ← ((dropReal? cs).map fun rest => (Literal.real, rest)).or (readWhole? cs)
  if (dropSuffix rest).head?.any Text.isNamePart then none else return (l, dropSuffix rest)

/-! ## Tokens -/

/-- The characters that are marks. -/
def marks : List Char :=
  "~!@#$%^&*-=+|;:,<.>/?'".toList

/-- The characters that are brackets. -/
def brackets : List Char :=
  ['(', ')', '[', ']', '\x7b', '\x7d']

/-- Whether a mark stands at the front, and not a comment. -/
def isMarkAhead : List Char → Bool
  | '/' :: '/' :: _ => false
  | '/' :: '*' :: _ => false
  | c :: _ => marks.contains c
  | [] => false

/-- Read a mark or a bracket. -/
def readMark? : List Char → Option (Token × List Char)
  | c :: cs =>
    if brackets.contains c then some (.mark c false, cs)
    else if c != '\'' && isMarkAhead (c :: cs) then some (.mark c (isMarkAhead cs), cs)
    else none
  | [] => none

/-- The part of a text that ends where `rest` starts. -/
def spellingUpTo (rest cs : List Char) : String :=
  String.ofList (cs.take (cs.length - rest.length))

/-- Read a literal. -/
def readLiteral? (cs : List Char) : Option (Token × List Char) := do
  let (l, rest) ← ((readQuoted? cs).map fun (l, rest) => (l, dropSuffix rest)).or (readNumber? cs)
  return (.literal l (spellingUpTo rest cs), rest)

/-- Read a name as a token, where no literal in quotes starts. -/
def readNameToken? (cs : List Char) : Option (Token × List Char) :=
  if quotedStarts.any (·.isPrefixOf cs) then none
  else
    ((readName? cs).map fun (s, rest) => (.name (String.ofList s), rest)).or
      ((readLifetime? cs).map fun (s, rest) => (.lifetime (String.ofList s), rest))

/-- Read a token, or a comment. -/
def readToken? (cs : List Char) : Option (List Token × List Char) :=
  if (['/', '/'].isPrefixOf cs) || (['/', '*'].isPrefixOf cs) then readComment? cs
  else
    (((readLiteral? cs).or (readNameToken? cs)).or (readMark? cs)).map fun (t, rest) => ([t], rest)

/-- Read the tokens of characters, at most `bound` of them and of the blanks between them. -/
def readTokens? : (bound : Nat) → List Char → Option (List Token)
  | _, [] => some []
  | 0, _ => none
  | bound + 1, c :: cs =>
    if isSpace c then readTokens? bound cs
    else do
      let (ts, rest) ← readToken? (c :: cs)
      return ts ++ (← readTokens? bound rest)

/-! ## Brackets -/

/-- The bracket that opens what a bracket closes. -/
def opening? : Char → Option Char
  | ')' => some '('
  | ']' => some '['
  | '\x7d' => some '\x7b'
  | _ => none

/-- Whether a mark opens a group. -/
def isOpening (c : Char) : Bool :=
  c == '(' || c == '[' || c == '\x7b'

/-- Match brackets.  `outer` holds the groups that are open, each with the tokens before it, and
`done` the tokens of the innermost group, all in reverse. -/
def groupFrom (outer : List (Char × List Token)) (done : List Token) :
    List Token → Option (List Token)
  | [] => if outer.isEmpty then some done.reverse else none
  | .mark c joined :: ts =>
    if isOpening c then groupFrom ((c, done) :: outer) [] ts
    else
      match opening? c, outer with
      | none, _ => groupFrom outer (.mark c joined :: done) ts
      | some o, (o', before) :: outer =>
        if o = o' then groupFrom outer (.group o done.reverse :: before) ts else none
      | some _, [] => none
  | t :: ts => groupFrom outer (t :: done) ts

/-- The tokens of a text. -/
def Token.ofText? (s : String) : Option (List Token) :=
  let cs := Text.dropByteOrderMark s.toList
  (readTokens? (cs.length + 1) cs).bind (groupFrom [] [])

end Declaration
end TableMapping
