import TableMapping.Text.Hex

/-!
# Universally unique identifiers

Sixteen bytes, written as thirty-two digits of base sixteen in groups of 8, 4, 4, 4 and
12 with hyphens between them.  They are read in either letter case, with the hyphens
in these places or with none at all; the hyphenated form may stand in braces or behind
`urn:uuid:`.
-/

namespace TableMapping

/-- Sixteen bytes that identify something. -/
structure Uuid where
  bytes : List UInt8
  length_bytes : bytes.length = 16
  deriving DecidableEq

namespace Uuid

/-- The identifier with these bytes, when there are sixteen. -/
def ofBytes? (bytes : List UInt8) : Option Uuid :=
  if h : bytes.length = 16 then some ⟨bytes, h⟩ else none

/-- The identifier of sixteen zeros. -/
def zero : Uuid := ⟨List.replicate 16 0, by decide⟩

/-- The bytes as digits without hyphens. -/
def digits (u : Uuid) : List Char :=
  u.bytes.flatMap Text.byteDigits

/-- The identifier in its hyphenated form. -/
def text (u : Uuid) : String :=
  let ds := u.digits
  String.ofList
    (ds.take 8 ++ '-' :: (ds.drop 8).take 4 ++ '-' :: (ds.drop 12).take 4 ++
      '-' :: (ds.drop 16).take 4 ++ '-' :: ds.drop 20)

/-- Take the hyphens out of a hyphenated form: they must stand behind 8, 13, 18 and 23
characters. -/
def withoutHyphens? (cs : List Char) : Option (List Char) :=
  match cs.drop 8, cs.drop 13, cs.drop 18, cs.drop 23 with
  | '-' :: _, '-' :: _, '-' :: _, '-' :: _ =>
    some (cs.take 8 ++ (cs.drop 9).take 4 ++ (cs.drop 14).take 4 ++ (cs.drop 19).take 4 ++ cs.drop 24)
  | _, _, _, _ => none

/-- Read the hyphenated form. -/
def hyphenated? (cs : List Char) : Option Uuid :=
  if cs.length = 36 then do ofBytes? (← Text.bytesOfDigits? (← withoutHyphens? cs)) else none

/-- Read an identifier in any of its forms. -/
def read? (cs : List Char) : Option Uuid :=
  if cs.length = 32 then (Text.bytesOfDigits? cs).bind ofBytes?
  else if cs.length = 36 then hyphenated? cs
  else if cs.length = 38 then
    match cs with
    | '\x7b' :: inner => if inner.getLast? = some '\x7d' then hyphenated? inner.dropLast else none
    | _ => none
  else if cs.length = 45 && ("urn:uuid:".toList).isPrefixOf (cs.map Char.toLower) then
    hyphenated? (cs.drop 9)
  else none

end Uuid
end TableMapping
