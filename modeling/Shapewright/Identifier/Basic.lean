import Shapewright.Unicode.Letter
import Shapewright.Unicode.Mark
import Shapewright.Unicode.Number

/-!
# Identifiers

The identifier grammar of the generated source, its reserved words, and `legalize`, which repairs
any text into an identifier and leaves identifiers alone. Case plays no part here.
-/
namespace Shapewright.Identifier
open Unicode

def isStart (c : Char) : Bool :=
  c == '_' || isLetter c || isLetterNumber c

def isContinue (c : Char) : Bool :=
  isStart c || isDecimal c || isConnector c || isMark c || isFormat c

/-- A start character followed by continue characters. -/
def validChars : List Char → Bool
  | [] => false
  | c :: cs => isStart c && cs.all isContinue

def IsValid (name : String) : Prop := validChars name.toList

instance (name : String) : Decidable (IsValid name) :=
  inferInstanceAs (Decidable (validChars name.toList = true))

/-- The words that the grammar reserves; contextual ones such as `var` are ordinary identifiers. -/
def keywords : List String := [
  "abstract", "as", "base", "bool", "break", "byte", "case", "catch", "char", "checked", "class",
  "const", "continue", "decimal", "default", "delegate", "do", "double", "else", "enum", "event",
  "explicit", "extern", "false", "finally", "fixed", "float", "for", "foreach", "goto", "if",
  "implicit", "in", "int", "interface", "internal", "is", "lock", "long", "namespace", "new",
  "null", "object", "operator", "out", "override", "params", "private", "protected", "public",
  "readonly", "ref", "return", "sbyte", "sealed", "short", "sizeof", "stackalloc", "static",
  "string", "struct", "switch", "this", "throw", "true", "try", "typeof", "uint", "ulong",
  "unchecked", "unsafe", "ushort", "using", "virtual", "void", "volatile", "while"]

def isKeyword (name : String) : Bool := keywords.contains name

/-- Stands in for a name made of nothing. -/
def placeholder : String := "Empty"

def repair (c : Char) : Char := if isContinue c then c else '_'

/-- A first character that may not start a name is kept behind a low line when it may continue
one. -/
def legalizeChars : List Char → List Char
  | [] => placeholder.toList
  | c :: cs => if isStart c then (c :: cs).map repair else '_' :: (c :: cs).map repair

def legalize (raw : String) : String :=
  String.ofList (legalizeChars raw.toList)

end Shapewright.Identifier
