import Shapewright.Identifier.Basic
import Shapewright.Ordered
import Shapewright.Text.Folded

/-!
# Settings

What can be chosen about the generated source. A draft leaves choices open and can be laid over
another; freezing it checks every choice and fills in the defaults.
-/
namespace Shapewright

inductive LineEnd where
  | lf
  | crlf
  deriving DecidableEq, Repr

/-- A choice that is not possible. -/
inductive SettingsError where
  | unknownLineEnd (name : String)
  | badNamespace (name : String)
  | negativeIndent (width : Int)
  | badForbiddenName (name : String)
  | notATable (key kind : String)
  | wrongType (key expected : String)
  | badForbiddenList
  | unreadable (path : String)
  | badToml (path : String)
  deriving DecidableEq, Repr

/-- The last two messages go on with the words of the system or of the parser, which are left
open. -/
def SettingsError.message : SettingsError → String
  | .unknownLineEnd name => s!"Unknown newline style '{name}' (expected one of: lf, crlf)"
  | .badNamespace name => s!"Invalid namespace '{name}'"
  | .negativeIndent width => s!"indent_width must be >= 0, got {width}"
  | .badForbiddenName name => s!"Forbidden name '{name}' is not a valid identifier"
  | .notATable key kind => s!"[{key}] must be a table, got {kind}"
  | .wrongType key expected => s!"'{key}' must be of type {expected}"
  | .badForbiddenList => "[naming].forbidden_names must be a list of strings"
  | .unreadable path => "Cannot read config file " ++ path
  | .badToml path => "Invalid TOML in " ++ path

namespace LineEnd

def text : LineEnd → String
  | .lf => "\n"
  | .crlf => "\r\n"

def name : LineEnd → String
  | .lf => "lf"
  | .crlf => "crlf"

def ofName (typed : String) : Except SettingsError LineEnd :=
  let word := Folded.fold typed
  if word = ['L', 'F'] then .ok .lf
  else if word = ['C', 'R', 'L', 'F'] then .ok .crlf
  else .error (.unknownLineEnd typed)

end LineEnd

namespace Settings

/-- The pieces of a text between its dots. -/
def segments : List Char → List (List Char)
  | [] => [[]]
  | c :: cs =>
    if c = '.' then [] :: segments cs
    else
      match segments cs with
      | [] => [[c]]
      | s :: ss => (c :: s) :: ss

def isNamespaceSegment (segment : String) : Bool :=
  !segment.isEmpty && !Identifier.isKeyword segment && Identifier.legalize segment == segment

/-- A namespace is a dotted sequence of identifiers that are not reserved. -/
def checkNamespace (name : String) : Except SettingsError String :=
  if (segments name.toList).all fun s => isNamespaceSegment (String.ofList s) then .ok name
  else .error (.badNamespace name)

end Settings

/-- All choices made and checked. -/
structure Settings where
  namespaceName : String := "QuickType"
  headerComment : Bool := true
  indentWidth : Nat := 4
  lineEnd : LineEnd := .lf
  forbiddenNames : List String := []
  sources : List String := []
  deriving DecidableEq, Repr

/-- A choice that is missing is left to the layers below. -/
structure Draft where
  namespaceName : Option String := none
  headerComment : Option Bool := none
  indentWidth : Option Int := none
  lineEnd : Option LineEnd := none
  forbiddenNames : List String := []
  sources : List String := []
  deriving DecidableEq, Repr

/-- Names that the generated source uses itself, so that a type of that name
would hide what is meant. -/
def Settings.builtinNames : List String := [
  "Convert", "Converter", "System", "Newtonsoft", "Type", "Exception", "NotImplementedException",
  "Dictionary", "JsonConverter", "JsonConvert", "JsonProperty", "JsonPropertyAttribute",
  "JsonReader", "JsonWriter", "JsonSerializer", "JsonSerializerSettings", "JsonToken",
  "MetadataPropertyHandling", "DateParseHandling"]

namespace Settings

/-- The forbidden names beyond the built-in ones. -/
def extraNames (s : Settings) : List String :=
  s.forbiddenNames.filter fun name => !builtinNames.contains name

def effectiveNames (s : Settings) : List String := builtinNames ++ s.extraNames

/-- A draft in which every choice is made. -/
def thaw (s : Settings) : Draft :=
  ⟨some s.namespaceName, some s.headerComment, some (s.indentWidth : Int), some s.lineEnd,
    s.forbiddenNames, s.sources⟩

end Settings

namespace Draft

def defaults : Draft := Settings.thaw {}

/-- Lays `upper` over the draft: its choices win, and its lists are added. -/
def layer (lower upper : Draft) : Draft where
  namespaceName := upper.namespaceName.or lower.namespaceName
  headerComment := upper.headerComment.or lower.headerComment
  indentWidth := upper.indentWidth.or lower.indentWidth
  lineEnd := upper.lineEnd.or lower.lineEnd
  forbiddenNames := lower.forbiddenNames ++ upper.forbiddenNames
  sources := lower.sources ++ upper.sources

def checkIndent (width : Int) : Except SettingsError Nat :=
  if width < 0 then .error (.negativeIndent width) else .ok width.toNat

def checkForbidden (names : List String) : Except SettingsError (List String) :=
  match names.find? fun name => Identifier.legalize name != name with
  | some name => .error (.badForbiddenName name)
  | none => .ok (Ordered.firstSeen names)

/-- Of several wrong choices the namespace is reported first, then the indent. -/
def freeze (d : Draft) : Except SettingsError Settings := do
  let base : Settings := {}
  let name ← Settings.checkNamespace (d.namespaceName.getD base.namespaceName)
  let width ← checkIndent (d.indentWidth.getD base.indentWidth)
  let forbidden ← checkForbidden d.forbiddenNames
  return ⟨name, d.headerComment.getD base.headerComment, width, d.lineEnd.getD base.lineEnd,
    forbidden, d.sources⟩

end Draft
end Shapewright
