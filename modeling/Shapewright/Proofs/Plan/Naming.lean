import Shapewright.Proofs.Plan.Display
import Shapewright.Proofs.Registry.Frame

/-!
# Planning succeeds

The four passes of a plan have two shapes: one allocates for each item of a list in one scope, the
other opens a scope for each item. Each shape is run once, and `Settled` says what the frozen names
of a plan are.
-/
namespace Shapewright.Plan
open Registry Result

variable {α : Type} {g : Graph} {forbidden : List String}

@[simp] theorem ofNaming_ok (a : α) : ofNaming (.ok a) = .ok a := rfl

@[simp] theorem ofNaming_eq_ok {x : Except (NamingError ScopeKey NameKey) α} {a : α} :
    ofNaming x = .ok a ↔ x = .ok a := by
  cases x <;> simp [ofNaming]

/-- A pass that asks for one name per item, all in one scope. -/
structure Allocates (scope : ScopeKey) (key : α → NameKey) (wish : α → Except EmitError String)
    (pass : Names → List α → Except EmitError Names) : Prop where
  nil : ∀ names, pass names [] = .ok names
  cons : ∀ names x xs, pass names (x :: xs) = do
    let preferred ← wish x
    let (_, names) ← ofNaming (names.allocate scope (key x) preferred)
    pass names xs

theorem nameClasses_allocates : Allocates .types (fun c : RecordClass => .record c.ref)
    (fun c => .ok (styledText c.baseName)) nameClasses :=
  ⟨fun _ => rfl, fun _ _ _ => rfl⟩

theorem nameUnions_allocates (g : Graph) : Allocates .types .union
    (fun u => unionBaseName g (membersOf u)) (nameUnions g) :=
  ⟨fun _ => rfl, fun _ _ _ => rfl⟩

theorem nameProperties_allocates (ref : Text) : Allocates (.properties ref) .property
    (fun key => .ok (styledText key)) (nameProperties ref) :=
  ⟨fun _ => rfl, fun _ _ _ => rfl⟩

theorem nameFields_allocates (g : Graph) (u : Shape) : Allocates (.fields u) .field
    (fieldBaseName g) (nameFields g u) :=
  ⟨fun _ => rfl, fun _ _ _ => rfl⟩

/-- Where every wish is there, the scope serves the wishes one after another and all other scopes
stay. -/
theorem Allocates.run {scope : ScopeKey} {key : α → NameKey} {wish : α → Except EmitError String}
    {pass : Names → List α → Except EmitError Names} (h : Allocates scope key wish pass)
    {text : α → String} {xs : List α} (wishes : ∀ x ∈ xs, wish x = .ok (text x)) {names : Names}
    {s : Scope NameKey} (there : names.scope? scope = some s) (opened : s.frozen = false) :
    ∃ t, pass names xs = .ok t ∧
      Updates names scope (s.grantAll (xs.map fun x => (key x, text x))) t := by
  induction xs generalizing names s with
  | nil => exact ⟨names, h.nil names, there, fun _ _ => rfl, rfl⟩
  | cons x xs ih =>
    obtain ⟨name, next, allocated, first⟩ := allocate_updates there opened (key x, text x)
    obtain ⟨t, rest, second⟩ := ih (fun y hy => wishes y (List.mem_cons_of_mem _ hy)) first.changed
      ((s.grant_frozen _).trans opened)
    refine ⟨t, ?_, first.trans second⟩
    rw [h.cons, wishes x List.mem_cons_self, ok_bind, allocated, ofNaming_ok, ok_bind]
    exact rest

/-- A pass that opens a scope for each item, in which the name of the item is forbidden. -/
structure Opens (scope : α → ScopeKey) (key : α → NameKey) (label : String → String)
    (fill : α → Names → Except EmitError Names) (pass : Names → List α → Except EmitError Names) :
    Prop where
  nil : ∀ names, pass names [] = .ok names
  cons : ∀ names x xs, pass names (x :: xs) = do
    let name ← ofNaming (names.find .types (key x))
    let (_, names) ← ofNaming (names.enter (scope x) (label name) [name])
    let names ← fill x names
    pass names xs

theorem nameClassMembers_opens : Opens (fun c : RecordClass => .properties c.ref)
    (fun c => .record c.ref) ("properties of " ++ ·)
    (fun c names => nameProperties c.ref names c.properties.keys) nameClassMembers :=
  ⟨fun _ => rfl, fun _ _ _ => rfl⟩

theorem nameUnionMembers_opens (g : Graph) : Opens .fields .union ("fields of " ++ ·)
    (fun u names => nameFields g u names (Shape.nonNull (membersOf u))) (nameUnionMembers g) :=
  ⟨fun _ => rfl, fun _ _ _ => rfl⟩

/-- The scope of one item after it was opened and filled. -/
def memberScope (label : String → String) (requests : List (NameKey × String)) (name : String) :
    Scope NameKey :=
  (Scope.new (label name) [name]).grantAll requests

/-- Distinct scopes that are not there yet are opened and filled one by one, and all other scopes
stay. -/
theorem Opens.run {scope : α → ScopeKey} {key : α → NameKey} {label : String → String}
    {fill : α → Names → Except EmitError Names} {pass : Names → List α → Except EmitError Names}
    (h : Opens scope key label fill pass) (labelled : ∀ name, (label name).isEmpty = false)
    (requests : α → List (NameKey × String)) {name : α → String} {xs : List α}
    (fills : ∀ x ∈ xs, ∀ names s, names.scope? (scope x) = some s → s.frozen = false →
      ∃ t, fill x names = .ok t ∧ Updates names (scope x) (s.grantAll (requests x)) t)
    (members : ∀ x ∈ xs, scope x ≠ .types) (apart : (xs.map scope).Nodup) {names : Names}
    (opened : names.frozen = false) (absent : ∀ x ∈ xs, names.scope? (scope x) = none)
    (named : ∀ x ∈ xs, names.find .types (key x) = .ok (name x)) :
    ∃ t, pass names xs = .ok t ∧ t.frozen = false ∧
      (∀ x ∈ xs, t.scope? (scope x) = some (memberScope label (requests x) (name x))) ∧
      ∀ other, other ∉ xs.map scope → t.scope? other = names.scope? other := by
  induction xs generalizing names with
  | nil => exact ⟨names, h.nil names, opened, by simp, fun _ _ => rfl⟩
  | cons x xs ih =>
    obtain ⟨notLater, apart⟩ := List.nodup_cons.mp apart
    have later : ∀ y ∈ xs, scope y ≠ scope x := fun y hy same =>
      notLater (same ▸ List.mem_map_of_mem hy)
    have here := members x List.mem_cons_self
    obtain ⟨entered, enter, first⟩ :=
      enter_new (absent x List.mem_cons_self) opened (labelled (name x)) [name x]
    obtain ⟨next, filled, second⟩ := fills x List.mem_cons_self entered _ first.changed rfl
    have step := first.trans second
    have types : ∀ k, next.find .types k = names.find .types k := fun k => by
      simp only [find, step.kept .types here.symm]
    obtain ⟨t, rest, open', scopes, kept⟩ :=
      ih (fun y hy => fills y (List.mem_cons_of_mem _ hy))
        (fun y hy => members y (List.mem_cons_of_mem _ hy)) apart (step.frozen.trans opened)
        (fun y hy => (step.kept _ (later y hy)).trans (absent y (List.mem_cons_of_mem _ hy)))
        (fun y hy => (types _).trans (named y (List.mem_cons_of_mem _ hy)))
    refine ⟨t, ?_, open', fun y hy => ?_, fun other ho => ?_⟩
    · rw [h.cons, named x List.mem_cons_self, ofNaming_ok, ok_bind, enter, ofNaming_ok, ok_bind]
      exact (congrArg (· >>= fun names => pass names xs) filled).trans rest
    · rcases List.mem_cons.mp hy with rfl | hy
      · exact (kept _ notLater).trans step.changed
      · exact scopes y hy
    · obtain ⟨notHere, notRest⟩ := not_or.mp (List.mem_cons.not.mp ho)
      exact (kept other notRest).trans (step.kept other notHere)

end Shapewright.Plan
