import Shapewright.Json.Value
import Shapewright.Number.Shortest
import Shapewright.Text.Quoted

/-!
# JSON values in messages

How a value is shown inside a message: texts between quotes, lists in brackets and objects in
braces.
-/
namespace Shapewright.Json

mutual
def shown : Json → String
  | .null => "None"
  | .boolean b => if b then "True" else "False"
  | .integer n => toString n
  | .double x => x.text
  | .string s => Quoted.quote s
  | .array items => "[" ++ ", ".intercalate (shownItems items) ++ "]"
  | .object fields => "\x7b" ++ ", ".intercalate (shownFields fields) ++ "\x7d"

def shownItems : List Json → List String
  | [] => []
  | v :: vs => v.shown :: shownItems vs

def shownFields : List (Text × Json) → List String
  | [] => []
  | (key, v) :: fs => (Quoted.quote key ++ ": " ++ v.shown) :: shownFields fs
end

end Shapewright.Json
