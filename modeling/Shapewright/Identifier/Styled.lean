import Shapewright.Identifier.Basic
import Shapewright.Identifier.Word

/-!
# Styled names

Names in the house style: the words of a text, each with a capital, joined and repaired into an
identifier.
-/
namespace Shapewright.Identifier

/-- The words folded and joined, a capital on each but the first. -/
def camelChars (raw : List Char) : List Char :=
  match (Word.words raw).map Word.fold with
  | [] => []
  | w :: ws => w ++ ws.flatMap Word.capitalize

def camelCase (raw : String) : String := String.ofList (camelChars raw.toList)

def capitalized (raw : String) : String := String.ofList (Word.capitalize raw.toList)

/-- The identifier that a key or a display name is written as, before collisions are settled. -/
def styled (raw : String) : String :=
  String.ofList (legalizeChars (Word.capitalize (camelChars raw.toList)))

end Shapewright.Identifier
