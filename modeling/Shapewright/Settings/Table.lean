import Shapewright.Settings.Basic
import Shapewright.Toml.Value

/-!
# Settings in tables

Drafts out of TOML tables and settings back into them. What a table leaves out stays open in the
draft; a value of the wrong kind is refused.
-/
namespace Shapewright

namespace Toml

/-- The table under a key, empty when there is none. -/
def tableUnder (t : Table) (key : String) : Except SettingsError Table :=
  match t.lookup key with
  | none => .ok []
  | some (.table entries) => .ok entries
  | some v => .error (.notATable key v.kind)

def textUnder (t : Table) (key : String) : Except SettingsError (Option String) :=
  match t.lookup key with
  | none => .ok none
  | some .absent => .ok none
  | some (.string s) => .ok (some s)
  | some _ => .error (.wrongType key "str")

def flagUnder (t : Table) (key : String) : Except SettingsError (Option Bool) :=
  match t.lookup key with
  | none => .ok none
  | some .absent => .ok none
  | some (.boolean b) => .ok (some b)
  | some _ => .error (.wrongType key "bool")

def integerUnder (t : Table) (key : String) : Except SettingsError (Option Int) :=
  match t.lookup key with
  | none => .ok none
  | some .absent => .ok none
  | some (.integer n) => .ok (some n)
  | some _ => .error (.wrongType key "int")

def texts? : List Value → Option (List String)
  | [] => some []
  | .string s :: vs => (texts? vs).map (s :: ·)
  | _ :: _ => none

/-- The forbidden names, none when nothing is said about them. -/
def forbiddenUnder (t : Table) : Except SettingsError (List String) :=
  match t.lookup "forbidden_names" with
  | none => .ok []
  | some (.array items) =>
    match texts? items with
    | some names => .ok names
    | none => .error .badForbiddenList
  | some _ => .error .badForbiddenList

end Toml

namespace Draft
open Toml

def lineEndOf : Option String → Except SettingsError (Option LineEnd)
  | none => .ok none
  | some name => (LineEnd.ofName name).map some

def ofTable (t : Table) : Except SettingsError Draft := do
  let output ← tableUnder t "output"
  let formatting ← tableUnder t "formatting"
  let naming ← tableUnder t "naming"
  let namespaceName ← textUnder output "namespace"
  let headerComment ← flagUnder output "header_comment"
  let indentWidth ← integerUnder formatting "indent_width"
  let lineEnd ← lineEndOf (← textUnder formatting "newline")
  let forbiddenNames ← forbiddenUnder naming
  return ⟨namespaceName, headerComment, indentWidth, lineEnd, forbiddenNames, []⟩

end Draft

namespace Settings
open Toml

def toTable (s : Settings) : Table := [
  ("output", .table [
    ("namespace", .string s.namespaceName),
    ("header_comment", .boolean s.headerComment)]),
  ("formatting", .table [
    ("indent_width", .integer s.indentWidth),
    ("newline", .string s.lineEnd.name)]),
  ("naming", .table [("forbidden_names", .array (s.forbiddenNames.map .string))])]

end Settings
end Shapewright
