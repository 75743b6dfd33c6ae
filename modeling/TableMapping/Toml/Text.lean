import TableMapping.Text.Hex

/-!
# Texts and keys in configuration documents

A text stands in double quotes, where a backslash escapes, or in single quotes, where nothing
does.  Three quotes on either side let it run over several lines: a line break right behind the
opening quotes does not count, and a backslash at the end of a line takes away the blanks up to
the next character.

A key is written bare or as a text on one line; points join keys to a path.

Readers take the characters behind the opening quotes and give the rest behind the closing ones.
-/

namespace TableMapping
namespace Toml

/-- Whether a character is a blank within a line. -/
def isGap (c : Char) : Bool :=
  c == ' ' || c == '\t'

/-- Whether a character may stand in a text or a comment. -/
def isPlain (c : Char) : Bool :=
  c == '\t' || (c.toNat ≥ 0x20 && c.toNat != 0x7f)

/-- The character with a code, unless the code is that of half a pair. -/
def codeChar? (n : Nat) : Option Char :=
  if n.isValidChar then some (Char.ofNat n) else none

/-- The character that digits of base sixteen name. -/
def escapedCode? (digits : List Char) : Option Char := do
  let ds ← digits.mapM Text.hexValue?
  codeChar? (ds.foldl (fun n d => 16 * n + d) 0)

/-- What a single escaped character stands for. -/
def simpleEscape? : Char → Option Char
  | 'b' => some (Char.ofNat 8)
  | 't' => some '\t'
  | 'n' => some '\n'
  | 'f' => some (Char.ofNat 12)
  | 'r' => some '\r'
  | '"' => some '"'
  | '\\' => some '\\'
  | _ => none

/-- Put a character in front of what has been read. -/
def consRead (c : Char) (read : Option (List Char × List Char)) : Option (List Char × List Char) :=
  read.map fun (cs, rest) => (c :: cs, rest)

/-! ## Texts on one line -/

/-- Read a text in double quotes. -/
def readQuoted? : List Char → Option (List Char × List Char)
  | [] => none
  | '"' :: cs => some ([], cs)
  | '\\' :: 'u' :: a :: b :: c :: d :: cs => do
    consRead (← escapedCode? [a, b, c, d]) (readQuoted? cs)
  | '\\' :: 'U' :: a :: b :: c :: d :: e :: f :: g :: h :: cs => do
    consRead (← escapedCode? [a, b, c, d, e, f, g, h]) (readQuoted? cs)
  | '\\' :: c :: cs => do
    consRead (← simpleEscape? c) (readQuoted? cs)
  | c :: cs => if isPlain c then consRead c (readQuoted? cs) else none

/-- Read a text in single quotes. -/
def readLiteral? : List Char → Option (List Char × List Char)
  | [] => none
  | '\'' :: cs => some ([], cs)
  | c :: cs => if isPlain c then consRead c (readLiteral? cs) else none

/-! ## Texts over several lines -/

/-- Where the reading of a text over several lines is. -/
inductive LineMode where
  | plain
  /-- Behind a backslash and blanks: the line must end here. -/
  | lineEnd
  /-- Behind the end of such a line: blanks do not count. -/
  | skipping

/-- Read a text in three double quotes.  Up to two quotes may stand before the closing ones. -/
def readQuotedLines? : LineMode → List Char → Option (List Char × List Char)
  | _, [] => none
  | .lineEnd, '\n' :: cs => readQuotedLines? .skipping cs
  | .lineEnd, '\r' :: '\n' :: cs => readQuotedLines? .skipping cs
  | .lineEnd, c :: cs => if isGap c then readQuotedLines? .lineEnd cs else none
  | .skipping, '\n' :: cs => readQuotedLines? .skipping cs
  | .skipping, '\r' :: '\n' :: cs => readQuotedLines? .skipping cs
  | .skipping, ' ' :: cs => readQuotedLines? .skipping cs
  | .skipping, '\t' :: cs => readQuotedLines? .skipping cs
  | _, '"' :: '"' :: '"' :: '"' :: '"' :: cs => some (['"', '"'], cs)
  | _, '"' :: '"' :: '"' :: '"' :: cs => some (['"'], cs)
  | _, '"' :: '"' :: '"' :: cs => some ([], cs)
  | _, '\\' :: 'u' :: a :: b :: c :: d :: cs => do
    consRead (← escapedCode? [a, b, c, d]) (readQuotedLines? .plain cs)
  | _, '\\' :: 'U' :: a :: b :: c :: d :: e :: f :: g :: h :: cs => do
    consRead (← escapedCode? [a, b, c, d, e, f, g, h]) (readQuotedLines? .plain cs)
  | _, '\\' :: '\n' :: cs => readQuotedLines? .skipping cs
  | _, '\\' :: '\r' :: '\n' :: cs => readQuotedLines? .skipping cs
  | _, '\\' :: c :: cs =>
    if isGap c then readQuotedLines? .lineEnd cs
    else do consRead (← simpleEscape? c) (readQuotedLines? .plain cs)
  | _, '\n' :: cs => consRead '\n' (readQuotedLines? .plain cs)
  | _, '\r' :: '\n' :: cs => consRead '\n' (readQuotedLines? .plain cs)
  | _, c :: cs => if isPlain c then consRead c (readQuotedLines? .plain cs) else none

/-- Read a text in three single quotes. -/
def readLiteralLines? : List Char → Option (List Char × List Char)
  | [] => none
  | '\'' :: '\'' :: '\'' :: '\'' :: '\'' :: cs => some (['\'', '\''], cs)
  | '\'' :: '\'' :: '\'' :: '\'' :: cs => some (['\''], cs)
  | '\'' :: '\'' :: '\'' :: cs => some ([], cs)
  | '\n' :: cs => consRead '\n' (readLiteralLines? cs)
  | '\r' :: '\n' :: cs => consRead '\n' (readLiteralLines? cs)
  | c :: cs => if isPlain c then consRead c (readLiteralLines? cs) else none

/-- Drop a line break at the front. -/
def dropBreak : List Char → List Char
  | '\n' :: cs => cs
  | '\r' :: '\n' :: cs => cs
  | cs => cs

/-- Read a text with its quotes. -/
def readText? : List Char → Option (List Char × List Char)
  | '"' :: '"' :: '"' :: cs => readQuotedLines? .plain (dropBreak cs)
  | '\'' :: '\'' :: '\'' :: cs => readLiteralLines? (dropBreak cs)
  | '"' :: cs => readQuoted? cs
  | '\'' :: cs => readLiteral? cs
  | _ => none

/-! ## Keys -/

/-- Whether a bare key may contain a character. -/
def isBareKeyChar (c : Char) : Bool :=
  c.isAlphanum || c == '_' || c == '-'

/-- Drop the blanks at the front of a line. -/
def skipGaps (cs : List Char) : List Char :=
  cs.dropWhile isGap

/-- Read a key. -/
def readKey? : List Char → Option (String × List Char)
  | '"' :: cs => (readQuoted? cs).map fun (key, rest) => (String.ofList key, rest)
  | '\'' :: cs => (readLiteral? cs).map fun (key, rest) => (String.ofList key, rest)
  | cs =>
    let key := cs.takeWhile isBareKeyChar
    if key.isEmpty then none else some (String.ofList key, cs.dropWhile isBareKeyChar)

/-- Read at most `bound` keys with points between them: those before the last, and the last. -/
def readPath? : (bound : Nat) → List Char → Option ((List String × String) × List Char)
  | 0, _ => none
  | bound + 1, cs => do
    let (key, rest) ← readKey? (skipGaps cs)
    match skipGaps rest with
    | '.' :: rest =>
      let ((path, last), rest) ← readPath? bound rest
      return ((key :: path, last), rest)
    | rest => return (([], key), rest)

end Toml
end TableMapping
