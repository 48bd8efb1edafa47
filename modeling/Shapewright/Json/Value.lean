import Shapewright.Entries
import Shapewright.Number.Binary64
import Shapewright.Text.Basic

/-!
# JSON values

Decoded JSON. Integers are exact and of any size; every other number is the nearest binary one.
-/
namespace Shapewright

/-- `fields` hold each key once, in the order in which the keys first came. -/
inductive Json where
  | null
  | boolean (b : Bool)
  | integer (n : Int)
  | double (x : Binary64)
  | string (s : Text)
  | array (items : List Json)
  | object (fields : List (Text × Json))
  deriving Repr, Inhabited

end Shapewright
