/-!
# Quoted identifiers

An identifier is quoted by a character that stands before and behind it; inside, that
character is written twice.
-/

namespace TableMapping
namespace Sql

/-- Write every quote twice. -/
def doubled (quote : Char) : List Char → List Char
  | [] => []
  | c :: cs => if c = quote then quote :: quote :: doubled quote cs else c :: doubled quote cs

/-- An identifier between quotes. -/
def quotedIdentifier (quote : Char) (name : String) : String :=
  String.ofList (quote :: doubled quote name.toList ++ [quote])

@[simp] theorem doubled_nil (quote : Char) : doubled quote [] = [] := rfl

theorem doubled_append (quote : Char) (xs ys : List Char) :
    doubled quote (xs ++ ys) = doubled quote xs ++ doubled quote ys := by
  induction xs with
  | nil => rfl
  | cons c cs ih => by_cases h : c = quote <;> simp [doubled, h, ih]

end Sql
end TableMapping
