import Shapewright.Document.Fault
import Shapewright.Plan.Key
import Shapewright.Settings.Basic

/-!
# Failures

What can go wrong behind a command, and how the command ends then. The numbers of the endings are
those that shell scripts expect of a program.
-/
namespace Shapewright.Command

inductive Status where
  | success
  | failure
  | badArguments
  | contradiction
  | badDocument
  | notFound
  | internal
  | inaccessible
  | badSettings
  deriving DecidableEq, Repr

def Status.code : Status → Nat
  | .success => 0
  | .failure => 1
  | .badArguments => 2
  | .contradiction => 64
  | .badDocument => 65
  | .notFound => 66
  | .internal => 70
  | .inaccessible => 74
  | .badSettings => 78

/-- The failures of the parts that a command is made of, each with what it has to say. -/
inductive Failure where
  | general (message : String)
  | document (location message : String)
  | unknownClass (message : String)
  | unregistered (message : String)
  | frozen (message : String)
  | unconvertible (unionName : String)
  | settings (message : String)
  deriving DecidableEq, Repr

namespace Failure

def text : Failure → String
  | .general message => message
  | .document location message => Document.describe location message
  | .unknownClass message => message
  | .unregistered message => message
  | .frozen message => message
  | .unconvertible unionName => "Cannot convert " ++ unionName
  | .settings message => message

def status : Failure → Status
  | .general _ => .failure
  | .document _ _ => .badDocument
  | .unknownClass _ => .badDocument
  | .unregistered _ => .internal
  | .frozen _ => .internal
  | .unconvertible _ => .failure
  | .settings _ => .badSettings

/-- What is told to the person at the terminal; a broken promise of the program itself is marked. -/
def report (f : Failure) : String :=
  if f.status = .internal then "Internal error: " ++ f.text else f.text

def ofFault (f : Document.Fault) : Failure := .document f.location f.cause.message

def ofSettings (e : SettingsError) : Failure := .settings e.message

def ofEmit (e : Plan.EmitError) : Failure :=
  match e with
  | .unknownClass _ => .unknownClass e.message
  | .naming (.unregistered _ _) => .unregistered e.message
  | .naming (.noScope _) => .unregistered e.message
  | .naming (.scopeFrozen _ _) => .frozen e.message
  | .naming (.registryFrozen _) => .frozen e.message

end Failure
end Shapewright.Command
