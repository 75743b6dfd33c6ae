import TableMapping.Json.Basic
import TableMapping.Text.Quoted

/-!
# Writing documents

`Json.print` is the compact form: no blanks, members in their order, and in texts only the
quote, the backslash and the controls are escaped.

`Json.shown` is the form inside messages, which names the kind of every part.
-/

namespace TableMapping
namespace Json

/-- How a character of a text is written in a document. -/
def escaped (c : Char) : List Char :=
  if c = '"' then ['\\', '"']
  else if c = '\\' then ['\\', '\\']
  else if c = '\x08' then ['\\', 'b']
  else if c = '\t' then ['\\', 't']
  else if c = '\n' then ['\\', 'n']
  else if c = '\x0c' then ['\\', 'f']
  else if c = '\r' then ['\\', 'r']
  else if c.toNat < 0x20 then
    ['\\', 'u', '0', '0', Text.hexDigit (c.toNat / 16), Text.hexDigit (c.toNat % 16)]
  else [c]

/-- A text as it is written in a document. -/
def textChars (s : String) : List Char :=
  '"' :: s.toList.flatMap escaped ++ ['"']

mutual

/-- The characters of a document in compact form. -/
def chars : Json → List Char
  | .null => ['n', 'u', 'l', 'l']
  | .bool true => ['t', 'r', 'u', 'e']
  | .bool false => ['f', 'a', 'l', 's', 'e']
  | .number n => n.text.toList
  | .text s => textChars s
  | .list [] => ['[', ']']
  | .list (x :: xs) => '[' :: chars x ++ tailChars xs
  | .object [] => ['\x7b', '\x7d']
  | .object ((k, x) :: ms) => '\x7b' :: textChars k ++ ':' :: chars x ++ memberChars ms

/-- The items of a list behind the first, and the closing bracket. -/
def tailChars : List Json → List Char
  | [] => [']']
  | x :: xs => ',' :: chars x ++ tailChars xs

/-- The members of an object behind the first, and the closing brace. -/
def memberChars : List (String × Json) → List Char
  | [] => ['\x7d']
  | (k, x) :: ms => ',' :: textChars k ++ ':' :: chars x ++ memberChars ms

end

/-- A document in compact form. -/
def print (j : Json) : String :=
  String.ofList j.chars

mutual

/-- A document as it is shown in a message. -/
def shown : Json → String
  | .null => "Null"
  | .bool b => "Bool(" ++ (if b then "true" else "false") ++ ")"
  | .number n => "Number(" ++ n.text ++ ")"
  | .text s => "String(" ++ Text.quoted s ++ ")"
  | .list xs => "Array [" ++ ", ".intercalate (shownItems xs) ++ "]"
  | .object ms => "Object \x7b" ++ ", ".intercalate (shownMembers ms) ++ "\x7d"

/-- The items of a list as they are shown in a message. -/
def shownItems : List Json → List String
  | [] => []
  | x :: xs => shown x :: shownItems xs

/-- The members of an object as they are shown in a message. -/
def shownMembers : List (String × Json) → List String
  | [] => []
  | (k, x) :: ms => (Text.quoted k ++ ": " ++ shown x) :: shownMembers ms

end

end Json
end TableMapping
