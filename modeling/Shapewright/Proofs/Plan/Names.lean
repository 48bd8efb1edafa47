import Shapewright.Proofs.Document.Accepted
import Shapewright.Proofs.Plan.Settled

/-!
# Planned names

All names of a plan are usable identifiers, and unique where they stand: types in the source,
properties in their class and fields in their union, none of them called like the type that holds
them.
-/
namespace Shapewright.Plan
open Identifier Registry

variable {κ : Type}

/-- All keys have names, usable ones that avoid the given ones, and different
keys have different names. -/
structure NamesApart (keys : List κ) (name : κ → Except EmitError String) (avoid : List String) :
    Prop where
  named : ∀ k ∈ keys, ∃ n, name k = .ok n ∧ n ∉ avoid ∧ IsUsable n
  apart : ∀ k ∈ keys, ∀ l ∈ keys, k ≠ l → name k ≠ name l

/-- A name that was found in a finished scope that served capital wishes only is a capital one. -/
theorem capital_of_scope {names : Names} {scope : ScopeKey} {label : String} {avoid : List String}
    {requests : List (NameKey × String)}
    (there : names.scope? scope = some ((Scope.new label avoid).grantAll requests).freeze)
    (capital : ∀ request ∈ requests, IsCapital request.2) {key : NameKey} {name : String}
    (found : ofNaming (names.find scope key) = .ok name) : IsCapital name := by
  have all := Scope.grantAll_induct (P := IsCapital) (s := .new label avoid)
    (fun _ => IsCapital.otherwise) capital (by simp [Scope.new])
  have named := (find_eq_ok there).mp (ofNaming_eq_ok.mp found)
  exact all _ (Scope.mem_names_of_name? named)

/-- A finished scope that served capital wishes only gives names apart. -/
theorem namesApart_of_scope {names : Names} {scope : ScopeKey} {label : String}
    {avoid : List String} {requests : List (NameKey × String)}
    (there : names.scope? scope = some ((Scope.new label avoid).grantAll requests).freeze)
    (capital : ∀ request ∈ requests, IsCapital request.2) :
    NamesApart (requests.map (·.1)) (fun key => ofNaming (names.find scope key)) avoid := by
  have sound := Scope.grantAll_sound (Scope.new_sound label avoid) requests
  have found : ∀ key ∈ requests.map (·.1), ∃ name, names.find scope key = .ok name ∧
      ((Scope.new label avoid).grantAll requests).name? key = some name := by
    intro key hk
    obtain ⟨request, asked, rfl⟩ := List.mem_map.mp hk
    obtain ⟨name, named⟩ := Scope.exists_name?_grantAll asked (.new label avoid)
    exact ⟨name, (find_eq_ok there).mpr named, named⟩
  refine ⟨fun key hk => ?_, fun key hk other ho different same => different ?_⟩
  · obtain ⟨name, find, named⟩ := found key hk
    have found := ofNaming_eq_ok.mpr find
    exact ⟨name, found, sound.not_forbidden named, (capital_of_scope there capital found).usable⟩
  · obtain ⟨name, find, named⟩ := found key hk
    obtain ⟨name', find', named'⟩ := found other ho
    rw [find, find'] at same
    obtain rfl : name = name' := by simpa using same
    exact sound.key_unique named named'

/-- Keys may be spelled in another way, as long as different keys stay different. -/
theorem NamesApart.comap {α : Type} {xs : List α} {key : α → κ} {name : κ → Except EmitError String}
    {avoid : List String} (h : NamesApart (xs.map key) name avoid)
    (distinct : ∀ x ∈ xs, ∀ y ∈ xs, key x = key y → x = y) :
    NamesApart xs (fun x => name (key x)) avoid := by
  refine ⟨fun x hx => h.named _ (List.mem_map_of_mem hx), fun x hx y hy different => ?_⟩
  refine h.apart _ (List.mem_map_of_mem hx) _ (List.mem_map_of_mem hy) fun same => ?_
  exact different (distinct x hx y hy same)

/-- The classes and the generated unions of a graph, which share one scope. -/
def typesOf (g : Graph) : List (RecordClass ⊕ Shape) := g.classes.map .inl ++ g.unions.map .inr

def nameOfType (p : Plan) : RecordClass ⊕ Shape → Except EmitError String
  | .inl c => p.className c.ref
  | .inr u => p.unionName u

def keyOfType : RecordClass ⊕ Shape → NameKey
  | .inl c => .record c.ref
  | .inr u => .union u

theorem nameOfType_find (p : Plan) (t : RecordClass ⊕ Shape) :
    p.nameOfType t = ofNaming (p.names.find .types (keyOfType t)) := by
  cases t <;> rfl

variable {p : Plan} {g : Graph} {forbidden : List String}

theorem typesOf_nodup (wf : g.WellFormed) : (typesOf g).Nodup := by
  refine List.nodup_append.mpr ⟨?_, ?_, ?_⟩
  · exact (List.Nodup.of_map _ wf.refs_nodup).map fun _ _ => Sum.inl.inj
  · exact g.unions_nodup.map fun _ _ => Sum.inr.inj
  · intro a ha b hb
    obtain ⟨c, -, rfl⟩ := List.mem_map.mp ha
    obtain ⟨u, -, rfl⟩ := List.mem_map.mp hb
    exact Sum.inl_ne_inr

theorem keyOfType_inj (wf : g.WellFormed) {a b : RecordClass ⊕ Shape} (ha : a ∈ typesOf g)
    (hb : b ∈ typesOf g) (same : keyOfType a = keyOfType b) : a = b := by
  cases a with
  | inl c =>
    cases b with
    | inl d =>
      have hc : c ∈ g.classes := by simpa [typesOf] using ha
      have hd : d ∈ g.classes := by simpa [typesOf] using hb
      exact congrArg Sum.inl
        (List.inj_on_of_nodup_map wf.refs_nodup hc hd (NameKey.record.inj same))
    | inr v => cases same
  | inr u =>
    cases b with
    | inl d => cases same
    | inr v => exact congrArg Sum.inr (NameKey.union.inj same)

theorem typeRequests_capital (wf : g.WellFormed) :
    ∀ request ∈ typeRequests g, IsCapital request.2 := by
  intro request asked
  rcases List.mem_append.mp asked with asked | asked
  · obtain ⟨c, -, rfl⟩ := List.mem_map.mp asked
    exact styled_capital _
  · obtain ⟨u, hu, rfl⟩ := List.mem_map.mp asked
    exact unionText_capital wf hu

theorem propertyRequests_capital (c : RecordClass) :
    ∀ request ∈ propertyRequests c, IsCapital request.2 := by
  intro request asked
  obtain ⟨key, -, rfl⟩ := List.mem_map.mp asked
  exact styled_capital _

theorem fieldRequests_capital (wf : g.WellFormed) {u : Shape} (hu : u ∈ g.unions) :
    ∀ request ∈ fieldRequests g u, IsCapital request.2 := by
  intro request asked
  obtain ⟨m, hm, rfl⟩ := List.mem_map.mp asked
  exact fieldText_capital wf ((nonNull_members wf hu).2 m hm)

theorem typeRequests_keys (g : Graph) : (typeRequests g).map (·.1) = (typesOf g).map keyOfType := by
  simp [typeRequests, typesOf, keyOfType, Function.comp_def]

theorem fieldRequests_keys (g : Graph) (u : Shape) :
    (fieldRequests g u).map (·.1) = (Shape.nonNull (membersOf u)).map .field := by
  simp [fieldRequests, Function.comp_def]

theorem Settled.types_apart (h : Settled p g forbidden) (wf : g.WellFormed) :
    NamesApart (typesOf g) p.nameOfType forbidden := by
  have apart := namesApart_of_scope h.types (typeRequests_capital wf)
  rw [typeRequests_keys] at apart
  rw [funext p.nameOfType_find]
  exact apart.comap fun a ha b hb => keyOfType_inj wf ha hb

theorem Settled.properties_apart (h : Settled p g forbidden) {c : RecordClass}
    (hc : c ∈ g.classes) :
    NamesApart c.properties.keys (p.propertyName c.ref) [typeName g forbidden (.record c.ref)] := by
  have keys : (propertyRequests c).map (·.1) = c.properties.keys.map .property := by
    simp [propertyRequests, Function.comp_def]
  have apart := namesApart_of_scope (h.properties c hc) (propertyRequests_capital c)
  rw [keys] at apart
  exact apart.comap fun _ _ _ _ => NameKey.property.inj

theorem Settled.fields_apart (h : Settled p g forbidden) (wf : g.WellFormed) {u : Shape}
    (hu : u ∈ g.unions) :
    NamesApart (Shape.nonNull (membersOf u)) (p.fieldName u) [typeName g forbidden (.union u)] := by
  have apart := namesApart_of_scope (h.fields u hu) (fieldRequests_capital wf hu)
  rw [fieldRequests_keys] at apart
  exact apart.comap fun _ _ _ _ => NameKey.field.inj

/-- Every name of a settled plan is a capital one. -/
structure AllCapital (p : Plan) : Prop where
  className : ∀ {ref name}, p.className ref = .ok name → IsCapital name
  unionName : ∀ {u name}, p.unionName u = .ok name → IsCapital name
  propertyName : ∀ {c key name}, c ∈ p.graph.classes → p.propertyName c.ref key = .ok name →
    IsCapital name
  fieldName : ∀ {u m name}, u ∈ p.unions → p.fieldName u m = .ok name → IsCapital name

theorem Settled.allCapital (h : Settled p g forbidden) (wf : g.WellFormed) : AllCapital p where
  className found := capital_of_scope h.types (typeRequests_capital wf) found
  unionName found := capital_of_scope h.types (typeRequests_capital wf) found
  propertyName hc found :=
    capital_of_scope (h.properties _ (h.graph ▸ hc)) (propertyRequests_capital _) found
  fieldName hu found :=
    capital_of_scope (h.fields _ (h.unions ▸ hu)) (fieldRequests_capital wf (h.unions ▸ hu)) found

/-- Every accepted document has a plan, whatever names are forbidden, and all its
names are usable and apart. -/
theorem ofGraph_names_apart {document : Json} {g : Graph}
    (accepted : Document.readGraph document = .ok g) (forbidden : List String) :
    ∃ p, ofGraph g forbidden = .ok p ∧
      ((typesOf g).Nodup ∧ NamesApart (typesOf g) p.nameOfType forbidden) ∧
      (∀ c ∈ g.classes, ∃ name, p.className c.ref = .ok name ∧
        NamesApart c.properties.keys (p.propertyName c.ref) [name]) ∧
      ∀ u ∈ g.unions, ∃ name, p.unionName u = .ok name ∧
        (Shape.nonNull (membersOf u)).Nodup ∧
        NamesApart (Shape.nonNull (membersOf u)) (p.fieldName u) [name] := by
  have wf := Document.readGraph_wellFormed accepted
  obtain ⟨p, planned, settled⟩ := ofGraph_ok wf forbidden
  refine ⟨p, planned, ⟨typesOf_nodup wf, settled.types_apart wf⟩, fun c hc => ?_, fun u hu => ?_⟩
  · exact ⟨_, settled.className_eq hc, settled.properties_apart hc⟩
  · exact ⟨_, settled.unionName_eq hu, (members_ordered wf hu).nodup.filter _,
      settled.fields_apart wf hu⟩

theorem sample_names_apart :
    ∃ p, ofGraph Document.sampleGraph ["Pet"] = .ok p ∧
      NamesApart (typesOf Document.sampleGraph) p.nameOfType ["Pet"] := by
  obtain ⟨p, planned, ⟨-, apart⟩, -⟩ := ofGraph_names_apart Document.readGraph_sample ["Pet"]
  exact ⟨p, planned, apart⟩

end Shapewright.Plan
