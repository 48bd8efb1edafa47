import Shapewright.Registry.Scope

/-!
# Registries of names

A registry owns the scopes of one run. It is filled once and then frozen; reading never changes it.
-/
namespace Shapewright

/-- The scopes in order of creation. -/
structure Registry (σ κ : Type) where
  scopes : List (σ × Registry.Scope κ)
  frozen : Bool := false

namespace Registry
variable {σ κ : Type} [DecidableEq σ] [DecidableEq κ] [KeyText σ]

/-- A registry starts with one scope, whose names must avoid the `forbidden` ones. -/
def new (first : σ) (forbidden : List String) : Registry σ κ :=
  ⟨[(first, .new (KeyText.label first) forbidden)], false⟩

def scope? (r : Registry σ κ) (scope : σ) : Option (Scope κ) := r.scopes.lookup scope

/-- Replaces a scope that exists. -/
def put (r : Registry σ κ) (scope : σ) (s : Scope κ) : Registry σ κ :=
  { r with scopes := r.scopes.map fun p => if p.1 = scope then (scope, s) else p }

/-- The scope of that key, created on first use; only then do label and forbidden names count. -/
def enter (r : Registry σ κ) (scope : σ) (label : String := "") (forbidden : List String := []) :
    Except (NamingError σ κ) (Scope κ × Registry σ κ) :=
  match r.scope? scope with
  | some s => .ok (s, r)
  | none =>
    if r.frozen then .error (.registryFrozen scope)
    else
      let s := Scope.new (if label.isEmpty then KeyText.label scope else label) forbidden
      .ok (s, { r with scopes := r.scopes ++ [(scope, s)] })

def allocate (r : Registry σ κ) (scope : σ) (key : κ) (preferred : String)
    (forbidden : List String := []) (retry : String → String := otherwise) :
    Except (NamingError σ κ) (String × Registry σ κ) := do
  let (s, r) ← r.enter scope
  let (name, s) ← s.allocate key preferred forbidden retry
  return (name, r.put scope s)

def find (r : Registry σ κ) (scope : σ) (key : κ) : Except (NamingError σ κ) String :=
  match r.scope? scope with
  | some s => s.find key
  | none => .error (.noScope scope)

/-- Freezes every scope as well. -/
def freeze (r : Registry σ κ) : Registry σ κ :=
  ⟨r.scopes.map fun p => (p.1, p.2.freeze), true⟩

end Registry
end Shapewright
