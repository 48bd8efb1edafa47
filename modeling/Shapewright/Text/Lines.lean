/-!
# Lines

Text from files and streams may end its lines in three ways; inside there is only the line feed.
-/
namespace Shapewright.Lines

/-- A carriage return ends a line, with or without a line feed after it. -/
def unified : List Char → List Char
  | [] => []
  | '\r' :: '\n' :: cs => '\n' :: unified cs
  | c :: cs => (if c = '\r' then '\n' else c) :: unified cs

def unify (text : String) : String := String.ofList (unified text.toList)

end Shapewright.Lines
