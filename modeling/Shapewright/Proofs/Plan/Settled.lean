import Shapewright.Proofs.Plan.Naming

/-!
# Settled plans

Every well-formed graph has a plan. `Settled` says what its frozen scopes hold, and from there every
name is found that the writers of the source ask for.
-/
namespace Shapewright.Plan
open Registry Result

variable {p : Plan} {g : Graph} {forbidden : List String}

/-- All types ask in one scope, the classes before the unions. -/
def typeRequests (g : Graph) : List (NameKey × String) :=
  g.classes.map (fun c => (.record c.ref, styledText c.baseName)) ++
    g.unions.map (fun u => (.union u, unionText g u))

def propertyRequests (c : RecordClass) : List (NameKey × String) :=
  c.properties.keys.map fun key => (.property key, styledText key)

def fieldRequests (g : Graph) (u : Shape) : List (NameKey × String) :=
  (Shape.nonNull (membersOf u)).map fun m => (.field m, fieldText g m)

def typeScope (g : Graph) (forbidden : List String) : Scope NameKey :=
  (Scope.new (KeyText.label ScopeKey.types) forbidden).grantAll (typeRequests g)

def propertyScope (c : RecordClass) : String → Scope NameKey :=
  memberScope ("properties of " ++ ·) (propertyRequests c)

def fieldScope (g : Graph) (u : Shape) : String → Scope NameKey :=
  memberScope ("fields of " ++ ·) (fieldRequests g u)

/-- The name of a class or a union. -/
def typeName (g : Graph) (forbidden : List String) (key : NameKey) : String :=
  ((typeScope g forbidden).name? key).getD ""

/-- The scopes of a finished plan. -/
structure Settled (p : Plan) (g : Graph) (forbidden : List String) : Prop where
  graph : p.graph = g
  unions : p.unions = g.unions
  types : p.names.scope? .types = some (typeScope g forbidden).freeze
  properties : ∀ c ∈ g.classes, p.names.scope? (.properties c.ref) =
    some (propertyScope c (typeName g forbidden (.record c.ref))).freeze
  fields : ∀ u ∈ g.unions, p.names.scope? (.fields u) =
    some (fieldScope g u (typeName g forbidden (.union u))).freeze

theorem record_mem_typeRequests {c : RecordClass} (h : c ∈ g.classes) :
    (.record c.ref, styledText c.baseName) ∈ typeRequests g :=
  List.mem_append_left _ (List.mem_map.mpr ⟨c, h, rfl⟩)

theorem union_mem_typeRequests {u : Shape} (h : u ∈ g.unions) :
    (.union u, unionText g u) ∈ typeRequests g :=
  List.mem_append_right _ (List.mem_map.mpr ⟨u, h, rfl⟩)

theorem name?_typeScope {request : NameKey × String} (h : request ∈ typeRequests g)
    (forbidden : List String) :
    (typeScope g forbidden).name? request.1 = some (typeName g forbidden request.1) := by
  obtain ⟨name, named⟩ :=
    Scope.exists_name?_grantAll h (.new (KeyText.label ScopeKey.types) forbidden)
  rw [typeName, typeScope, named, Option.getD_some]

theorem find_type {names : Names} (there : names.scope? .types = some (typeScope g forbidden))
    {request : NameKey × String} (h : request ∈ typeRequests g) :
    names.find .types request.1 = .ok (typeName g forbidden request.1) :=
  (find_eq_ok there).mpr (name?_typeScope h forbidden)

theorem fillProperties (c : RecordClass) {names : Names} {s : Scope NameKey}
    (there : names.scope? (.properties c.ref) = some s) (opened : s.frozen = false) :
    ∃ t, nameProperties c.ref names c.properties.keys = .ok t ∧
      Updates names (.properties c.ref) (s.grantAll (propertyRequests c)) t :=
  (nameProperties_allocates c.ref).run (fun _ _ => rfl) there opened

theorem fillFields (wf : g.WellFormed) {u : Shape} (hu : u ∈ g.unions) {names : Names}
    {s : Scope NameKey} (there : names.scope? (.fields u) = some s) (opened : s.frozen = false) :
    ∃ t, nameFields g u names (Shape.nonNull (membersOf u)) = .ok t ∧
      Updates names (.fields u) (s.grantAll (fieldRequests g u)) t :=
  (nameFields_allocates g u).run
    (fun m hm => fieldBaseName_eq wf ((nonNull_members wf hu).2 m hm)) there opened

/-- The first two passes fill the scope of types and open no other. -/
theorem nameTypes_ok (wf : g.WellFormed) (forbidden : List String) :
    ∃ classes unions, nameClasses (.new .types forbidden) g.classes = .ok classes ∧
      nameUnions g classes g.unions = .ok unions ∧ unions.frozen = false ∧
      unions.scope? .types = some (typeScope g forbidden) ∧
      ∀ scope, scope ≠ .types → unions.scope? scope = none := by
  have start : (Registry.new .types forbidden : Names).scope? .types =
      some (.new (KeyText.label ScopeKey.types) forbidden) := List.lookup_cons_self
  obtain ⟨classes, first, named⟩ := nameClasses_allocates.run (fun _ _ => rfl) start rfl
  obtain ⟨unions, second, joined⟩ := (nameUnions_allocates g).run
    (fun u hu => unionBaseName_eq wf hu) named.changed (Scope.grantAll_frozen _ _)
  refine ⟨classes, unions, first, second, joined.frozen.trans named.frozen, ?_,
    fun scope apart => ?_⟩
  · rw [joined.changed, typeScope, typeRequests, Scope.grantAll_append]
  · have other : (scope == ScopeKey.types) = false := by simpa using apart
    rw [joined.kept scope apart, named.kept scope apart]
    simp [Registry.new, scope?, List.lookup_cons, other]

/-- The other two passes open one scope for each class and each union and leave the types as they
are. -/
theorem nameMembers_ok (wf : g.WellFormed) {names : Names} (opened : names.frozen = false)
    (types : names.scope? .types = some (typeScope g forbidden))
    (absent : ∀ scope, scope ≠ .types → names.scope? scope = none) :
    ∃ classes unions, nameClassMembers names g.classes = .ok classes ∧
      nameUnionMembers g classes g.unions = .ok unions ∧
      unions.scope? .types = some (typeScope g forbidden) ∧
      (∀ c ∈ g.classes, unions.scope? (.properties c.ref) =
        some (propertyScope c (typeName g forbidden (.record c.ref)))) ∧
      ∀ u ∈ g.unions, unions.scope? (.fields u) =
        some (fieldScope g u (typeName g forbidden (.union u))) := by
  have classScopes : (g.classes.map fun c => ScopeKey.properties c.ref).Nodup := by
    simpa [List.map_map, Function.comp_def] using
      wf.refs_nodup.map (f := ScopeKey.properties) fun a b same => ScopeKey.properties.inj same
  have unionScopes : (g.unions.map ScopeKey.fields).Nodup :=
    g.unions_nodup.map fun a b same => ScopeKey.fields.inj same
  obtain ⟨classes, first, opened, properties, kept⟩ :=
    nameClassMembers_opens.run (fun name => by simp) propertyRequests
      (fun c _ _ _ there opened => fillProperties c there opened)
      (fun _ _ => ScopeKey.noConfusion) classScopes opened
      (fun _ _ => absent _ ScopeKey.noConfusion)
      (fun c hc => find_type types (record_mem_typeRequests hc))
  have types : classes.scope? .types = some (typeScope g forbidden) :=
    (kept _ (by simp)).trans types
  obtain ⟨unions, second, -, fields, keptThen⟩ :=
    (nameUnionMembers_opens g).run (fun name => by simp) (fieldRequests g)
      (fun u hu _ _ there opened => fillFields wf hu there opened)
      (fun _ _ => ScopeKey.noConfusion) unionScopes opened
      (fun u _ => (kept _ (by simp)).trans (absent _ ScopeKey.noConfusion))
      (fun u hu => find_type types (union_mem_typeRequests hu))
  refine ⟨classes, unions, first, second, (keptThen _ (by simp)).trans types, fun c hc => ?_,
    fields⟩
  exact (keptThen _ (by simp)).trans (properties c hc)

theorem ofGraph_ok (wf : g.WellFormed) (forbidden : List String) :
    ∃ p, ofGraph g forbidden = .ok p ∧ Settled p g forbidden := by
  obtain ⟨r₁, r₂, first, second, opened, types, absent⟩ := nameTypes_ok wf forbidden
  obtain ⟨r₃, r₄, third, fourth, types, properties, fields⟩ := nameMembers_ok wf opened types absent
  refine ⟨⟨g, r₄.freeze, g.unions⟩, ?_, rfl, rfl, ?_, fun c hc => ?_, fun u hu => ?_⟩
  · simp only [ofGraph, first, second, third, fourth, ok_bind, pure_eq]
  · rw [scope?_freeze, types, Option.map_some]
  · rw [scope?_freeze, properties c hc, Option.map_some]
  · rw [scope?_freeze, fields u hu, Option.map_some]

namespace Settled

theorem className_eq (h : Settled p g forbidden) {c : RecordClass} (hc : c ∈ g.classes) :
    p.className c.ref = .ok (typeName g forbidden (.record c.ref)) :=
  ofNaming_eq_ok.mpr
    ((find_eq_ok h.types).mpr (name?_typeScope (record_mem_typeRequests hc) forbidden))

theorem unionName_eq (h : Settled p g forbidden) {u : Shape} (hu : u ∈ g.unions) :
    p.unionName u = .ok (typeName g forbidden (.union u)) :=
  ofNaming_eq_ok.mpr
    ((find_eq_ok h.types).mpr (name?_typeScope (union_mem_typeRequests hu) forbidden))

theorem propertyName_ok (h : Settled p g forbidden) {c : RecordClass} (hc : c ∈ g.classes)
    {key : Text} (hk : key ∈ c.properties.keys) : ∃ name, p.propertyName c.ref key = .ok name := by
  have asked : (.property key, styledText key) ∈ propertyRequests c :=
    List.mem_map.mpr ⟨key, hk, rfl⟩
  obtain ⟨name, named⟩ := Scope.exists_name?_grantAll asked _
  exact ⟨name, ofNaming_eq_ok.mpr ((find_eq_ok (h.properties c hc)).mpr named)⟩

theorem fieldName_ok (h : Settled p g forbidden) {u m : Shape} (hu : u ∈ g.unions)
    (hm : m ∈ Shape.nonNull (membersOf u)) : ∃ name, p.fieldName u m = .ok name := by
  have asked : (.field m, fieldText g m) ∈ fieldRequests g u := List.mem_map.mpr ⟨m, hm, rfl⟩
  obtain ⟨name, named⟩ := Scope.exists_name?_grantAll asked _
  exact ⟨name, ofNaming_eq_ok.mpr ((find_eq_ok (h.fields u hu)).mpr named)⟩

end Settled
end Shapewright.Plan
