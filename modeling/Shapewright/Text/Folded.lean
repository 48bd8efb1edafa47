import Shapewright.Unicode.Blank
import Shapewright.Unicode.Case

/-!
# Folded words

Words typed by hand are compared without the blanks around them and in capitals.
-/
namespace Shapewright.Folded

/-- What is left without the characters of a class at both ends. -/
def trim (drops : Char → Bool) (cs : List Char) : List Char :=
  ((cs.dropWhile drops).reverse.dropWhile drops).reverse

def fold (typed : String) : List Char := (trim Unicode.isBlank typed.toList).flatMap Unicode.upper

end Shapewright.Folded
