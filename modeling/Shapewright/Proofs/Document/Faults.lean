import Shapewright.Proofs.Document.Exact
import Shapewright.Proofs.Document.Pointer

/-!
# The places of faults

A fault is reported where it is. Its place, read as a pointer, leads to a node of the document, and
that node is wrong by itself: it is refused for the same cause wherever it stands.
-/
namespace Shapewright.Document
open Result

/-- The path of the fault leads to a node that has what its cause says. -/
def Leads (Wrong : Cause → Json → Prop) (f : Fault) (node : Json) : Prop :=
  ∃ inner, follow f.path node = some inner ∧ Wrong f.cause inner

section Leads
variable {Wrong : Cause → Json → Prop} {f : Fault} {node child : Json}

theorem Leads.here (h : Wrong f.cause node) (root : f.path = []) : Leads Wrong f node :=
  ⟨node, by rw [root, follow_nil], h⟩

theorem Leads.within {path : List Text} (found : follow path node = some child)
    (h : Leads Wrong f child) :
    Leads Wrong ⟨path ++ f.path, f.cause⟩ node := by
  obtain ⟨inner, reached, wrong⟩ := h
  exact ⟨inner, by rw [follow_append, found, Option.bind_some, reached], wrong⟩

theorem Leads.mono {More : Cause → Json → Prop}
    (weaker : ∀ {cause node}, Wrong cause node → More cause node) (h : Leads Wrong f node) :
    Leads More f node := by
  obtain ⟨inner, reached, wrong⟩ := h
  exact ⟨inner, reached, weaker wrong⟩

end Leads

theorem within_eq_error {α : Type} {path : List Text} {r : Except Fault α} {f : Fault} :
    within path r = .error f ↔ ∃ g, r = .error g ∧ (⟨path ++ g.path, g.cause⟩ : Fault) = f := by
  cases r <;> simp [within]

/-- In an object with each key once, every field stands under its key. -/
theorem nodeUnder?_of_mem {fields : Fields} (once : fields.keys.Nodup) {field : Text × Json}
    (h : field ∈ fields) :
    nodeUnder? field.1 fields = some field.2 := by
  obtain ⟨before, after, rfl⟩ := List.append_of_mem h
  refine List.lookup_eq_some_iff.mpr ⟨before, after, rfl, fun other inside => ?_⟩
  rw [Entries.keys, List.map_append, List.map_cons] at once
  have apart :=
    (List.nodup_append.mp once).2.2 other.1 (List.mem_map_of_mem inside) field.1 List.mem_cons_self
  exact bne_iff_ne.mpr apart.symm

section Shapes

/-- The node of a shape is refused at its root. -/
def RefusedShape (cause : Cause) (node : Json) : Prop := readShape node = .error ⟨[], cause⟩

theorem leads_root {node : Json} {f : Fault} (h : readShape node = .error f) (root : f.path = []) :
    Leads RefusedShape f node := by
  obtain ⟨path, cause⟩ := f
  obtain rfl : path = [] := root
  exact .here h rfl

/-- The way from a union to one of its members. -/
def memberPath (n : Nat) : List Text := ["members", .ofString (toString n)]

theorem follow_memberPath {fields : Fields} {nodes : List Json}
    (found : nodeUnder? "members" fields = some (.array nodes)) (n : Nat) :
    follow (memberPath n) (.object fields) = nodes[n]? := by
  have list : follow ["members"] (.object fields) = some (.array nodes) := by
    rw [follow_singleton, child?, found]
  rw [memberPath, ← List.singleton_append, follow_append, list, Option.bind_some, follow_singleton,
    child?_index]

/-- Members are read one after another, and the first fault counts. -/
theorem readShapes_eq_error {index : Nat} {nodes : List Json} {f : Fault}
    (h : readShapes index nodes = .error f) :
    ∃ n node g, nodes[n]? = some node ∧ readShape node = .error g ∧
      (⟨memberPath (index + n) ++ g.path, g.cause⟩ : Fault) = f := by
  induction nodes generalizing index with
  | nil => cases h
  | cons node nodes ih =>
    rw [readShapes] at h
    rcases bind_eq_error.mp h with first | ⟨s, -, h⟩
    · obtain ⟨g, refused, same⟩ := within_eq_error.mp first
      exact ⟨0, node, g, rfl, refused, same⟩
    · rcases bind_eq_error.mp h with rest | ⟨_, -, done⟩
      · obtain ⟨n, node, g, found, refused, same⟩ := ih rest
        refine ⟨n + 1, node, g, found, refused, ?_⟩
        rwa [Nat.add_assoc, Nat.add_comm 1 n] at same
      · cases done

theorem joined_error_path {shapes : List Shape} {f : Fault} (h : joined shapes = .error f) :
    f.path = [] := by
  unfold joined at h
  split at h <;> cases h <;> rfl

theorem readRef_error_path {fields : Fields} {f : Fault} (h : readRef fields = .error f) :
    f.path = [] := by
  unfold readRef at h
  split at h
  · split at h <;> cases h
    rfl
  · cases h
    rfl

/-- Members stand one level below the node under their key, so the items of a list are kept as
well. -/
structure LeadsInside (node : Json) : Prop where
  shape : ∀ {f}, readShape node = .error f → Leads RefusedShape f node
  items : ∀ {nodes}, node = .array nodes → ∀ n ∈ nodes, ∀ {f}, readShape n = .error f →
    Leads RefusedShape f n

theorem leads_object {fields : Fields} (ih : ∀ field ∈ fields, LeadsInside field.2) {f : Fault}
    (h : readShape (.object fields) = .error f) : Leads RefusedShape f (.object fields) := by
  have refused := h
  rcases readShape_kinds fields
    with ⟨cause, atRoot⟩ | ⟨kind, hasKind, ⟨s, primitive⟩ | rfl | rfl | rfl | rfl⟩
  · obtain rfl : ⟨[], cause⟩ = f := Except.error.inj (atRoot.symm.trans h)
    exact leads_root h rfl
  · cases (readShape_primitive hasKind primitive).symm.trans h
  · rw [readShape_array hasKind] at h
    split at h
    · next node found =>
      obtain ⟨g, inner, rfl⟩ := within_eq_error.mp (map_eq_error.mp h)
      have reached : follow ["items"] (.object fields) = some node := by
        rw [follow_singleton, child?, found]
      exact ((ih _ (mem_of_nodeUnder? found)).shape inner).within reached
    · cases h
      exact leads_root refused rfl
  · rw [readShape_map hasKind] at h
    split at h
    · next node found =>
      obtain ⟨g, inner, rfl⟩ := within_eq_error.mp (map_eq_error.mp h)
      have reached : follow ["values"] (.object fields) = some node := by
        rw [follow_singleton, child?, found]
      exact ((ih _ (mem_of_nodeUnder? found)).shape inner).within reached
    · cases h
      exact leads_root refused rfl
  · rw [readShape_record hasKind] at h
    exact leads_root refused (readRef_error_path h)
  · rw [readShape_union hasKind] at h
    split at h
    · next nodes found =>
      rcases bind_eq_error.mp h with failed | ⟨shapes, -, failed⟩
      · obtain ⟨n, node, g, listed, inner, rfl⟩ := readShapes_eq_error failed
        have reached : follow (memberPath (0 + n)) (.object fields) = some node := by
          rw [follow_memberPath found, Nat.zero_add, listed]
        have inside : node ∈ nodes := List.mem_of_getElem? listed
        exact ((ih _ (mem_of_nodeUnder? found)).items rfl node inside inner).within reached
      · exact leads_root refused (joined_error_path failed)
    · cases h
      exact leads_root refused rfl

theorem leadsInside (node : Json) : LeadsInside node := by
  induction node with
  | object fields ih => exact ⟨leads_object ih, fun other => by cases other⟩
  | array items ih =>
    refine ⟨fun h => ?_, fun same n inside => ?_⟩
    · have refused := h
      cases h
      exact leads_root refused rfl
    · cases same
      exact (ih n inside).shape
  | string kind =>
    refine ⟨fun h => leads_root h ?_, fun other => by cases other⟩
    rw [readShape, readKind] at h
    split at h <;> cases h
    rfl
  | _ =>
    refine ⟨fun h => ?_, fun other => by cases other⟩
    have refused := h
    cases h
    exact leads_root refused rfl

end Shapes

/-- What is wrong with a node by itself, whatever part of a document it is. -/
inductive Refused : Cause → Json → Prop
  | object {part : Part} {node : Json} :
      (∀ fields, node ≠ .object fields) → Refused (.notAnObject part) node
  | names {node : Json} : (∀ name : Text, node ≠ .string name) →
      (∀ names : List Text, node ≠ .array (names.map .string)) → Refused .badNames node
  | shape {cause : Cause} {node : Json} : RefusedShape cause node → Refused cause node
  | document {cause : Cause} {node : Json} :
      readGraph node = .error ⟨[], cause⟩ → Refused cause node

section Parts
variable {fields : Fields} {f : Fault}

theorem asObject_eq_error {part : Part} {node : Json} (h : asObject part node = .error f) :
    f.path = [] ∧ Refused f.cause node := by
  cases node with
  | object fields => cases h
  | _ =>
    cases h
    exact ⟨rfl, .object fun fields => Json.noConfusion⟩

theorem objectUnder_eq_error {key : Text} {part : Part}
    (h : objectUnder key part fields = .error f) :
    Leads Refused f (.object fields) := by
  unfold objectUnder at h
  split at h
  · cases h
  · next node found =>
    obtain ⟨g, inner, rfl⟩ := within_eq_error.mp h
    obtain ⟨root, refused⟩ := asObject_eq_error inner
    have reached : follow [key] (.object fields) = some node := by
      rw [follow_singleton, child?, found]
    exact (Leads.here refused root).within reached

theorem readNames_eq_error {ref : Text} (h : readNames ref fields = .error f) :
    Leads Refused f (.object fields) := by
  have refused : ¬ HasNames fields := by
    intro named
    obtain ⟨names, read⟩ := exists_readNames.mpr named
    cases read.symm.trans h
  obtain ⟨absent, single, several⟩ : nodeUnder? "names" fields ≠ none ∧
      (¬ ∃ name : Text, nodeUnder? "names" fields = some (.string name)) ∧
      ¬ ∃ names : List Text, nodeUnder? "names" fields = some (.array (names.map .string)) := by
    simpa only [HasNames, not_or] using refused
  obtain ⟨node, found⟩ := Option.ne_none_iff_exists'.mp absent
  have same : f = ⟨["names"], .badNames⟩ := by
    unfold readNames at h
    dsimp only at h
    split at h <;> cases h
    rfl
  have reached : follow ["names"] (.object fields) = some node := by
    rw [follow_singleton, child?, found]
  rw [same]
  refine Leads.within (f := ⟨[], .badNames⟩) reached
    (.here (.names (fun name same => ?_) fun names same => ?_) rfl)
  · exact single ⟨name, same ▸ found⟩
  · exact several ⟨names, same ▸ found⟩

/-- Fields are read one after another; in an object with each key once a fault is
under the key of its field. -/
theorem readEach_eq_error {α : Type} {read : Text → Json → Except Fault α}
    (once : fields.keys.Nodup)
    (each : ∀ field ∈ fields, ∀ {g}, read field.1 field.2 = .error g → Leads Refused g field.2)
    (h : readEach read fields = .error f) : Leads Refused f (.object fields) := by
  obtain ⟨field, given, g, refused, rfl⟩ : ∃ field ∈ fields, ∃ g, read field.1 field.2 = .error g ∧
      (⟨[field.1] ++ g.path, g.cause⟩ : Fault) = f := by
    clear once each
    induction fields with
    | nil => cases h
    | cons field fields ih =>
      rcases bind_eq_error.mp h with first | ⟨a, -, h⟩
      · obtain ⟨g, refused, same⟩ := within_eq_error.mp first
        exact ⟨field, List.mem_cons_self, g, refused, same⟩
      · rcases bind_eq_error.mp h with rest | ⟨_, -, done⟩
        · obtain ⟨other, given, found⟩ := ih rest
          exact ⟨other, List.mem_cons_of_mem _ given, found⟩
        · cases done
  have reached : follow [field.1] (.object fields) = some field.2 := by
    rw [follow_singleton, child?, nodeUnder?_of_mem once given]
  exact (each field given refused).within reached

/-- The same of an object under a key, which is there as soon as one of its fields has a fault. -/
theorem readEach_under_eq_error {α : Type} {key : Text} {entries : Fields}
    {read : Text → Json → Except Fault α} (once : (Json.object fields).KeysOnce)
    (under : ObjectUnder key fields entries)
    (each : ∀ field ∈ entries, ∀ {g}, read field.1 field.2 = .error g → Leads Refused g field.2)
    (h : within [key] (readEach read entries) = .error f) : Leads Refused f (.object fields) := by
  obtain ⟨g, inner, rfl⟩ := within_eq_error.mp h
  rcases under with ⟨-, rfl⟩ | found
  · cases inner
  · have reached : follow [key] (.object fields) = some (.object entries) := by
      rw [follow_singleton, child?, found]
    have distinct : entries.keys.Nodup := keys_nodup_of_keysOnce once (.inr found)
    exact (readEach_eq_error distinct each inner).within reached

theorem leads_shape {node : Json} (h : readShape node = .error f) : Leads Refused f node :=
  ((leadsInside node).shape h).mono .shape

theorem leads_class {ref : Text} {node : Json} (once : node.KeysOnce)
    (h : readClass ref node = .error f) :
    Leads Refused f node := by
  rcases bind_eq_error.mp h with notObject | ⟨fields, object, rest⟩
  · obtain ⟨root, refused⟩ := asObject_eq_error notObject
    exact .here refused root
  · obtain rfl := asObject_eq_ok.mp object
    rcases bind_eq_error.mp rest with names | ⟨_, -, rest⟩
    · exact readNames_eq_error names
    · rcases bind_eq_error.mp rest with notObject | ⟨properties, under, rest⟩
      · exact objectUnder_eq_error notObject
      · rcases bind_eq_error.mp rest with property | ⟨_, -, done⟩
        · exact readEach_under_eq_error once (objectUnder_eq_ok.mp under) (fun _ _ _ => leads_shape)
            property
        · cases done

theorem leads_graph {document : Json} (once : document.KeysOnce)
    (h : readGraph document = .error f) :
    Leads Refused f document := by
  rcases bind_eq_error.mp h with notObject | ⟨fields, object, rest⟩
  · obtain ⟨root, refused⟩ := asObject_eq_error notObject
    exact .here refused root
  · obtain rfl := asObject_eq_ok.mp object
    split at rest
    · next root found =>
      rcases bind_eq_error.mp rest with notObject | ⟨classNodes, given, rest⟩
      · exact objectUnder_eq_error notObject
      · have under := objectUnder_eq_ok.mp given
        rcases bind_eq_error.mp rest with inClass | ⟨classes, -, rest⟩
        · refine readEach_under_eq_error once under (fun field inside _ => leads_class ?_) inClass
          exact (Json.keysOnce_object.mp (under.keysOnce once)).2 field inside
        · rcases bind_eq_error.mp rest with inRoot | ⟨topLevel, -, rest⟩
          · obtain ⟨g, inner, rfl⟩ := within_eq_error.mp inRoot
            have reached : follow ["top_level"] (.object fields) = some root := by
              rw [follow_singleton, child?, found]
            exact (leads_shape inner).within reached
          · dsimp only at rest
            split at rest <;> cases rest
            exact .here (.document h) rfl
    · cases rest
      exact .here (.document h) rfl

end Parts

/-- The place of every fault of a document is a pointer to a node of it that is wrong by itself. A
fault inside a node has a place below the place of that node, and the node that it leads to is
refused alone for the same cause. -/
theorem faults_point_at_nodes :
    (∀ {document : Json} {f : Fault}, document.KeysOnce → readGraph document = .error f →
      ∃ node, resolve (f.placeFrom "") document = some node ∧ Refused f.cause node) ∧
    ∀ {node : Json} {f : Fault} (base : Text), readShape node = .error f →
      ∃ below inner, f.placeFrom base = base ++ below ∧ resolve below node = some inner ∧
        readShape inner = .error ⟨[], f.cause⟩ := by
  constructor
  · intro document f once refused
    obtain ⟨node, reached, wrong⟩ := leads_graph once refused
    have place : f.placeFrom "" = pointer f.path := rfl
    exact ⟨node, by rw [place, resolve_pointer, reached], wrong⟩
  · intro node f base refused
    obtain ⟨inner, reached, alone⟩ := (leadsInside node).shape refused
    exact ⟨pointer f.path, inner, rfl, by rw [resolve_pointer, reached], alone⟩

/-- A union one of whose members holds values of no kind. -/
def tiltedNode : Json := .object [
  ("kind", .string "union"),
  ("members", .array [
    .string "null", .object [("kind", .string "map"), ("values", .string "strong")]])]

/-- The union stands under an empty key, in a class whose reference needs escapes. -/
def tiltedDocument : Json := .object [
  ("top_level", .string "string"),
  ("classes", .object [("a/b~1", .object [("properties", .object [("", tiltedNode)])])])]

theorem sample_faults_point :
    tiltedDocument.KeysOnce ∧
      readGraph tiltedDocument =
        .error ⟨["classes", "a/b~1", "properties", "", "members", "1", "values"],
          .unknownKind "strong"⟩ ∧
      (∃ node, resolve "/classes/a~1b~01/properties//members/1/values" tiltedDocument = some node ∧
        Refused (.unknownKind "strong") node) ∧
      readShape tiltedNode = .error ⟨["members", "1", "values"], .unknownKind "strong"⟩ ∧
      ∃ below inner, ("#/members/1/values" : Text) = "#" ++ below ∧
        resolve below tiltedNode = some inner ∧
        readShape inner = .error ⟨[], .unknownKind "strong"⟩ := by
  have once : tiltedDocument.KeysOnce := by simp [tiltedDocument, tiltedNode, Entries.keys]
  have refused : readGraph tiltedDocument =
      .error ⟨["classes", "a/b~1", "properties", "", "members", "1", "values"],
        .unknownKind "strong"⟩ := rfl
  have inside : readShape tiltedNode = .error ⟨["members", "1", "values"], .unknownKind "strong"⟩ :=
    rfl
  exact ⟨once, refused, faults_point_at_nodes.1 once refused, inside,
    faults_point_at_nodes.2 "#" inside⟩

end Shapewright.Document
