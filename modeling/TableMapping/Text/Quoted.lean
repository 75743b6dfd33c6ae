import TableMapping.Text.Hex
import TableMapping.Text.Printable

/-!
# Quoted texts in messages

A message shows a text between double quotes and a character between single
quotes.  The quote itself, the backslash and the usual controls are written with a
backslash, and every other character that has no shape of its own as `\u` and its
code point in braces.
-/

namespace TableMapping
namespace Text

/-- How a character appears between the given quotes. -/
def shownChar (quote : Char) (c : Char) : List Char :=
  if c = '\x00' then ['\\', '0']
  else if c = '\t' then ['\\', 't']
  else if c = '\r' then ['\\', 'r']
  else if c = '\n' then ['\\', 'n']
  else if c = '\\' then ['\\', '\\']
  else if c = quote then ['\\', quote]
  else if isShown c then [c]
  else ['\\', 'u', '\x7b'] ++ hexDigits c.toNat ++ ['\x7d']

/-- A text as it is shown in a message, between double quotes. -/
def quoted (s : String) : String :=
  String.ofList (['"'] ++ s.toList.flatMap (shownChar '"') ++ ['"'])

/-- A character as it is shown in a message, between single quotes. -/
def quotedChar (c : Char) : String :=
  String.ofList (['\''] ++ shownChar '\'' c ++ ['\''])

end Text
end TableMapping
