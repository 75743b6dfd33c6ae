import TableMapping.Text.LetterCase

/-!
# Names of constants

Every declared field has a constant for its handle.  The constant has the name of the field in
capitals, with an underscore where a capital follows a small letter or a digit.  A name that
would otherwise be reserved carries the mark `r#`, which the constant does not need.
-/

namespace TableMapping
namespace Declaration

/-- Drop every mark of a reserved name at the front. -/
def dropReservedMarks : List Char → List Char
  | 'r' :: '#' :: cs => dropReservedMarks cs
  | cs => cs

/-- The characters in capitals, `afterSmall` saying whether a small letter or a digit stands
before them. -/
def capitals (afterSmall : Bool) : List Char → List Char
  | [] => []
  | c :: cs =>
    (if afterSmall && Text.isUpper c then ['_'] else []) ++ Text.upper c ++
      capitals (Text.isLower c || c.isDigit) cs

/-- The name of the constant of a field. -/
def constantName (field : String) : String :=
  String.ofList (capitals false (dropReservedMarks field.toList))

end Declaration
end TableMapping
