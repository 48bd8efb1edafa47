/-!
# Scopes of unique names

A scope hands out one name per key. `firstFree` settles collisions: it retries until a candidate is
free. An operation that fails leaves the scope as it was.
-/
namespace Shapewright

/-- How a key is spelled in messages and, when nothing better is given, as the label of a scope. -/
class KeyText (κ : Type) where
  quoted : κ → String
  label : κ → String

/-- Why a registry refuses an operation; scopes are named by `σ` and hold keys of `κ`. -/
inductive NamingError (σ κ : Type) where
  | scopeFrozen (preferred label : String)
  | registryFrozen (scope : σ)
  | unregistered (key : κ) (label : String)
  | noScope (scope : σ)
  deriving DecidableEq, Repr

def NamingError.message {σ κ : Type} [KeyText σ] [KeyText κ] : NamingError σ κ → String
  | .scopeFrozen preferred label => s!"Cannot allocate '{preferred}' in frozen scope '{label}'"
  | .registryFrozen scope =>
    "Cannot create scope " ++ KeyText.quoted scope ++ " in a frozen registry"
  | .unregistered key label =>
    "No name registered for " ++ KeyText.quoted key ++ s!" in scope '{label}'"
  | .noScope scope => "No name scope registered for " ++ KeyText.quoted scope

namespace Registry

/-- The usual way on from a name that is taken. -/
def otherwise (name : String) : String := "Other" ++ name

def without (name : String) (taken : List String) : List String := taken.filter (· ≠ name)

theorem length_without_lt {name : String} {taken : List String} (h : name ∈ taken) :
    (without name taken).length < taken.length := by
  rw [without, List.length_filter_lt_length_iff_exists]
  exact ⟨name, h, by simp⟩

/-- The first of `candidate`, `retry candidate`, … that is not taken. A name that was refused once
is not compared again, which bounds the retries by the number of taken names. -/
def firstFree (retry : String → String) (taken : List String) (candidate : String) : String :=
  if _h : candidate ∈ taken then firstFree retry (without candidate taken) (retry candidate)
  else candidate
termination_by taken.length
decreasing_by exact length_without_lt _h

/-- `names` lists the keys in the order in which they got their names. -/
structure Scope (κ : Type) where
  label : String
  taken : List String
  names : List (κ × String) := []
  frozen : Bool := false

variable {σ κ : Type} [DecidableEq κ]

def Scope.new (label : String) (forbidden : List String) : Scope κ := ⟨label, forbidden, [], false⟩

def Scope.name? (s : Scope κ) (key : κ) : Option String := s.names.lookup key

def Scope.isTaken (s : Scope κ) (name : String) : Bool := s.taken.contains name

def Scope.freeze (s : Scope κ) : Scope κ := { s with frozen := true }

/-- A key keeps its first name; `forbidden` names are avoided for this key only. -/
def Scope.allocate (s : Scope κ) (key : κ) (preferred : String) (forbidden : List String := [])
    (retry : String → String := otherwise) : Except (NamingError σ κ) (String × Scope κ) :=
  match s.name? key with
  | some name => .ok (name, s)
  | none =>
    if s.frozen then .error (.scopeFrozen preferred s.label)
    else
      let name := firstFree retry (s.taken ++ forbidden) preferred
      .ok (name, { s with taken := name :: s.taken, names := s.names ++ [(key, name)] })

def Scope.find (s : Scope κ) (key : κ) : Except (NamingError σ κ) String :=
  match s.name? key with
  | some name => .ok name
  | none => .error (.unregistered key s.label)

end Registry
end Shapewright
