import Shapewright.Proofs.Document.Accepted
import Shapewright.Proofs.Json.Keys

/-!
# The grammar of documents

Which nodes describe which shapes, and which documents describe a graph, said without the reader. A
union node describes the set of the alternatives that its members offer.
-/
namespace Shapewright.Document
open Result Shape

/-- The kinds that need nothing but their name. -/
inductive Primitive : Text → Shape → Prop
  | nothing : Primitive "nothing" .nothing
  | null : Primitive "null" .null
  | boolean : Primitive "bool" .boolean
  | integer : Primitive "integer" .integer
  | double : Primitive "double" .double
  | string : Primitive "string" .string

/-- At least two alternatives, each once and in order, which are those of the given shapes. -/
structure IsUnion (shapes members : List Shape) : Prop where
  several : 2 ≤ members.length
  ordered : Ordered members
  offered : ∀ m, m ∈ members ↔ ∃ s ∈ shapes, m ∈ alternatives s

def HasKind (fields : Fields) (kind : Text) : Prop := nodeUnder? "kind" fields = some (.string kind)

inductive Describes : Json → Shape → Prop
  | word {kind : Text} {s : Shape} : Primitive kind s → Describes (.string kind) s
  | primitive {fields : Fields} {kind : Text} {s : Shape} :
      HasKind fields kind → Primitive kind s → Describes (.object fields) s
  | array {fields : Fields} {node : Json} {items : Shape} :
      HasKind fields "array" → nodeUnder? "items" fields = some node → Describes node items →
      Describes (.object fields) (.array items)
  | map {fields : Fields} {node : Json} {values : Shape} :
      HasKind fields "map" → nodeUnder? "values" fields = some node → Describes node values →
      Describes (.object fields) (.map values)
  | record {fields : Fields} {ref : Text} :
      HasKind fields "class" → nodeUnder? "ref" fields = some (.string ref) → ref ≠ "" →
      Describes (.object fields) (.record ref)
  | union {fields : Fields} {nodes : List Json} {shapes members : List Shape} :
      HasKind fields "union" → nodeUnder? "members" fields = some (.array nodes) →
      nodes.length = shapes.length → (∀ p ∈ nodes.zip shapes, Describes p.1 p.2) →
      IsUnion shapes members → Describes (.object fields) (.union members)

def IsNode (node : Json) : Prop := ∃ s, Describes node s

/-- The node refers to the class, itself or somewhere inside. -/
inductive Mentions (ref : Text) : Json → Prop
  | here {fields : Fields} :
      HasKind fields "class" → nodeUnder? "ref" fields = some (.string ref) →
        Mentions ref (.object fields)
  | items {fields : Fields} {node : Json} :
      HasKind fields "array" → nodeUnder? "items" fields = some node → Mentions ref node →
      Mentions ref (.object fields)
  | values {fields : Fields} {node : Json} :
      HasKind fields "map" → nodeUnder? "values" fields = some node → Mentions ref node →
      Mentions ref (.object fields)
  | member {fields : Fields} {nodes : List Json} {node : Json} :
      HasKind fields "union" → nodeUnder? "members" fields = some (.array nodes) → node ∈ nodes →
      Mentions ref node → Mentions ref (.object fields)

/-- The object under a key that may be missing, which is the same as an empty one. -/
def ObjectUnder (key : Text) (fields entries : Fields) : Prop :=
  nodeUnder? key fields = none ∧ entries = [] ∨ nodeUnder? key fields = some (.object entries)

/-- No names, one name or a list of names. -/
def HasNames (fields : Fields) : Prop :=
  nodeUnder? "names" fields = none ∨
    (∃ name : Text, nodeUnder? "names" fields = some (.string name)) ∨
    ∃ names : List Text, nodeUnder? "names" fields = some (.array (names.map .string))

def HasProperties (node : Json) (properties : Fields) : Prop :=
  ∃ fields, node = .object fields ∧ ObjectUnder "properties" fields properties

structure IsClass (node : Json) : Prop where
  names : ∃ fields, node = .object fields ∧ HasNames fields
  properties : ∃ properties, HasProperties node properties ∧ ∀ p ∈ properties, IsNode p.2

/-- The class is mentioned at the root or in a property of a class. -/
def Referred (ref : Text) (root : Json) (classes : Fields) : Prop :=
  Mentions ref root ∨
    ∃ c ∈ classes, ∃ properties, HasProperties c.2 properties ∧ ∃ p ∈ properties, Mentions ref p.2

def IsDocument (document : Json) : Prop :=
  ∃ fields root classes, document = .object fields ∧ nodeUnder? "top_level" fields = some root ∧
    ObjectUnder "classes" fields classes ∧ IsNode root ∧ (∀ c ∈ classes, IsClass c.2) ∧
    ∀ ref, Referred ref root classes → ref ∈ classes.keys

theorem lookup_primitives {kind : Text} {s : Shape} :
    primitives.lookup kind = some s ↔ Primitive kind s := by
  constructor
  · intro h
    obtain ⟨before, after, split, -⟩ := List.lookup_eq_some_iff.mp h
    have inside : (kind, s) ∈ primitives := split ▸ List.mem_append_right _ List.mem_cons_self
    simp only [primitives, List.mem_cons, Prod.mk.injEq, List.not_mem_nil, or_false] at inside
    rcases inside with ⟨rfl, rfl⟩ | ⟨rfl, rfl⟩ | ⟨rfl, rfl⟩ | ⟨rfl, rfl⟩ | ⟨rfl, rfl⟩ | ⟨rfl, rfl⟩
    · exact .nothing
    · exact .null
    · exact .boolean
    · exact .integer
    · exact .double
    · exact .string
  · intro h
    cases h <;> rfl

theorem readKind_eq_ok {kind : Text} {s : Shape} : readKind kind = .ok s ↔ Primitive kind s := by
  rw [← lookup_primitives, readKind]
  cases primitives.lookup kind <;> simp

theorem isEmpty_eq_false {t : Text} : t.isEmpty = false ↔ t ≠ "" := by
  obtain ⟨points⟩ := t
  cases points <;> simp [Text.isEmpty, Text.ofString, Text.ofChars]

theorem readRef_eq_ok {fields : Fields} {s : Shape} :
    readRef fields = .ok s ↔
      ∃ ref : Text, nodeUnder? "ref" fields = some (.string ref) ∧ ref ≠ "" ∧ s = .record ref := by
  constructor
  · intro h
    unfold readRef at h
    split at h
    · next ref found =>
      split at h
      · cases h
      · next filled =>
        cases h
        exact ⟨ref, found, isEmpty_eq_false.mp (by simpa using filled), rfl⟩
    · cases h
  · rintro ⟨ref, found, filled, rfl⟩
    simp [readRef, found, isEmpty_eq_false.mpr filled]

theorem readField_eq (key : Text) (fields : Fields) :
    readField key fields = (nodeUnder? key fields).map fun node =>
      within [key] (readShape node) := by
  induction fields with
  | nil => rfl
  | cons field fields ih =>
    obtain ⟨k, node⟩ := field
    rw [readField, ih]
    by_cases same : k = key
    · simp [nodeUnder?, same]
    · have other : (key == k) = false := by simpa using Ne.symm same
      simp [nodeUnder?, same, List.lookup_cons, other]

theorem readMembers_eq (fields : Fields) :
    readMembers fields =
      match nodeUnder? "members" fields with
      | some (.array nodes) => some (readShapes 0 nodes)
      | _ => none := by
  induction fields with
  | nil => rfl
  | cons field fields ih =>
    obtain ⟨k, node⟩ := field
    by_cases same : k = "members"
    · cases node <;> simp [readMembers, nodeUnder?, same]
    · have other : (("members" : Text) == k) = false := by simpa using Ne.symm same
      have skipped : nodeUnder? "members" ((k, node) :: fields) = nodeUnder? "members" fields := by
        simp [nodeUnder?, List.lookup_cons, other]
      rw [skipped, ← ih]
      cases node <;> simp [readMembers, same]

section Partners
variable {α β : Type} {as : List α} {bs : List β} (lengths : as.length = bs.length)
include lengths

/-- In lists of equal length every element stands beside one of the other list. -/
theorem exists_partner_right {a : α} (h : a ∈ as) : ∃ b, (a, b) ∈ as.zip bs := by
  rw [← List.map_fst_zip (Nat.le_of_eq lengths)] at h
  obtain ⟨p, hp, rfl⟩ := List.mem_map.mp h
  exact ⟨p.2, hp⟩

theorem exists_partner_left {b : β} (h : b ∈ bs) : ∃ a, (a, b) ∈ as.zip bs := by
  rw [← List.map_snd_zip (Nat.le_of_eq lengths.symm)] at h
  obtain ⟨p, hp, rfl⟩ := List.mem_map.mp h
  exact ⟨p.1, hp⟩

end Partners

theorem readShapes_eq_ok {index : Nat} {nodes : List Json} {shapes : List Shape} :
    readShapes index nodes = .ok shapes ↔
      nodes.length = shapes.length ∧ ∀ p ∈ nodes.zip shapes, readShape p.1 = .ok p.2 := by
  induction nodes generalizing index shapes with
  | nil =>
    cases shapes <;> simp [readShapes]
  | cons node nodes ih =>
    cases shapes with
    | nil => simp [readShapes, bind_eq_ok]
    | cons s shapes =>
      simp only [readShapes, bind_eq_ok, within_eq_ok, pure_eq, Except.ok.injEq, List.cons.injEq,
        List.length_cons, Nat.add_right_cancel_iff, List.zip_cons_cons, List.forall_mem_cons]
      constructor
      · rintro ⟨first, read, rest, readRest, rfl, rfl⟩
        obtain ⟨lengths, each⟩ := ih.mp readRest
        exact ⟨lengths, read, each⟩
      · rintro ⟨lengths, read, each⟩
        exact ⟨s, read, shapes, ih.mpr ⟨lengths, each⟩, rfl, rfl⟩

theorem joined_eq_union {shapes : List Shape} {s : Shape} :
    joined shapes = .ok s ↔
      ∃ members, join? shapes = some (.union members) ∧ s = .union members := by
  unfold joined
  split
  · simp_all
  · next members joint =>
    simp only [joint, Except.ok.injEq, Option.some.injEq, Shape.union.injEq]
    constructor
    · rintro rfl
      exact ⟨members, rfl, rfl⟩
    · rintro ⟨_, rfl, rfl⟩
      rfl
  · next other notUnion joint =>
    simp only [reduceCtorEq, false_iff]
    rintro ⟨members, isUnion, -⟩
    exact notUnion members (Option.some.inj (joint.symm.trans isUnion))

theorem isUnion_iff {shapes members : List Shape} :
    IsUnion shapes members ↔
      collect (shapes.flatMap alternatives) = members ∧ 2 ≤ members.length := by
  constructor
  · intro h
    refine ⟨Ordered.ext (collect_ordered _) h.ordered fun m => ?_, h.several⟩
    rw [mem_collect, List.mem_flatMap, h.offered]
  · rintro ⟨rfl, several⟩
    exact ⟨several, collect_ordered _, fun m => by rw [mem_collect, List.mem_flatMap]⟩

theorem joined_eq_ok {shapes : List Shape} {s : Shape} (canonical : ∀ m ∈ shapes, m.Canonical) :
    joined shapes = .ok s ↔ ∃ members, IsUnion shapes members ∧ s = .union members := by
  simp only [joined_eq_union, isUnion_iff, join?_eq_union canonical]

theorem mem_of_nodeUnder? {key : Text} {fields : Fields} {node : Json}
    (h : nodeUnder? key fields = some node) : (key, node) ∈ fields := by
  obtain ⟨before, after, split, -⟩ := List.lookup_eq_some_iff.mp h
  exact split ▸ List.mem_append_right _ List.mem_cons_self

/-- Members stand one level below the node under their key, so the items of a list are kept as
well. -/
structure ReadsExactly (node : Json) : Prop where
  shape : ∀ {s}, readShape node = .ok s ↔ Describes node s
  items : ∀ {nodes}, node = .array nodes → ∀ n ∈ nodes, ∀ {s}, readShape n = .ok s ↔ Describes n s

section Kinds
variable {fields : Fields}

theorem readShape_primitive {kind : Text} {s : Shape} (h : HasKind fields kind)
    (primitive : Primitive kind s) :
    readShape (.object fields) = .ok s := by
  unfold HasKind at h
  simp [readShape, h, lookup_primitives.mpr primitive]

theorem readShape_array (h : HasKind fields "array") :
    readShape (.object fields) =
      match nodeUnder? "items" fields with
      | some node => (within ["items"] (readShape node)).map .array
      | none => .error ⟨[], .noItems⟩ := by
  have other : primitives.lookup ("array" : Text) = none := rfl
  unfold HasKind at h
  rw [readShape, h]
  simp only [other, if_true, readField_eq]
  cases nodeUnder? "items" fields <;> rfl

theorem readShape_map (h : HasKind fields "map") :
    readShape (.object fields) =
      match nodeUnder? "values" fields with
      | some node => (within ["values"] (readShape node)).map .map
      | none => .error ⟨[], .noValues⟩ := by
  have other : primitives.lookup ("map" : Text) = none := rfl
  have notArray : ("map" : Text) ≠ "array" := by simp
  unfold HasKind at h
  rw [readShape, h]
  simp only [other, if_neg notArray, if_true, readField_eq]
  cases nodeUnder? "values" fields <;> rfl

theorem readShape_record (h : HasKind fields "class") :
    readShape (.object fields) = readRef fields := by
  have other : primitives.lookup ("class" : Text) = none := rfl
  unfold HasKind at h
  simp [readShape, h, other]

theorem readShape_union (h : HasKind fields "union") :
    readShape (.object fields) =
      match nodeUnder? "members" fields with
      | some (.array nodes) => readShapes 0 nodes >>= joined
      | _ => .error ⟨[], .noMemberList⟩ := by
  have other : primitives.lookup ("union" : Text) = none := rfl
  unfold HasKind at h
  simp only [readShape, h, other, readMembers_eq, Text.ofString_inj, String.reduceEq, if_true,
    if_false]
  cases nodeUnder? "members" fields with
  | none => rfl
  | some node => cases node <;> rfl

/-- An object is refused for its kind, or it has a kind that is read. -/
theorem readShape_kinds (fields : Fields) :
    (∃ cause, readShape (.object fields) = .error ⟨[], cause⟩) ∨
      ∃ kind, HasKind fields kind ∧
        ((∃ s, Primitive kind s) ∨ kind = "array" ∨ kind = "map" ∨ kind = "class" ∨
          kind = "union") := by
  rw [readShape]
  split
  · next kind hasKind =>
    split
    · next shape found => exact .inr ⟨kind, hasKind, .inl ⟨shape, lookup_primitives.mp found⟩⟩
    · by_cases isArray : kind = "array"
      · exact .inr ⟨kind, hasKind, .inr (.inl isArray)⟩
      · by_cases isMap : kind = "map"
        · exact .inr ⟨kind, hasKind, .inr (.inr (.inl isMap))⟩
        · by_cases isRecord : kind = "class"
          · exact .inr ⟨kind, hasKind, .inr (.inr (.inr (.inl isRecord)))⟩
          · by_cases isUnion : kind = "union"
            · exact .inr ⟨kind, hasKind, .inr (.inr (.inr (.inr isUnion)))⟩
            · exact .inl ⟨_, by rw [if_neg isArray, if_neg isMap, if_neg isRecord, if_neg isUnion]⟩
  · exact .inl ⟨_, rfl⟩

/-- Only these kinds are read. -/
theorem kind_of_readShape {s : Shape} (h : readShape (.object fields) = .ok s) :
    ∃ kind, HasKind fields kind ∧
      (Primitive kind s ∨ kind = "array" ∨ kind = "map" ∨ kind = "class" ∨ kind = "union") := by
  rcases readShape_kinds fields with ⟨cause, refused⟩ | ⟨kind, hasKind, ⟨t, primitive⟩ | known⟩
  · cases refused.symm.trans h
  · have same : t = s := Except.ok.inj ((readShape_primitive hasKind primitive).symm.trans h)
    exact ⟨kind, hasKind, .inl (same ▸ primitive)⟩
  · exact ⟨kind, hasKind, .inr known⟩

variable {s : Shape} (ih : ∀ field ∈ fields, ReadsExactly field.2)
include ih

theorem describes_of_read (h : readShape (.object fields) = .ok s) :
    Describes (.object fields) s := by
  obtain ⟨kind, hasKind, primitive | rfl | rfl | rfl | rfl⟩ := kind_of_readShape h
  · exact .primitive hasKind primitive
  · rw [readShape_array hasKind] at h
    split at h
    · next node found =>
      obtain ⟨items, read, rfl⟩ := map_eq_ok.mp h
      have inner := (ih _ (mem_of_nodeUnder? found)).shape.mp (within_eq_ok.mp read)
      exact .array hasKind found inner
    · cases h
  · rw [readShape_map hasKind] at h
    split at h
    · next node found =>
      obtain ⟨values, read, rfl⟩ := map_eq_ok.mp h
      have inner := (ih _ (mem_of_nodeUnder? found)).shape.mp (within_eq_ok.mp read)
      exact .map hasKind found inner
    · cases h
  · rw [readShape_record hasKind] at h
    obtain ⟨ref, found, filled, rfl⟩ := readRef_eq_ok.mp h
    exact .record hasKind found filled
  · rw [readShape_union hasKind] at h
    split at h
    · next nodes found =>
      obtain ⟨shapes, read, joint⟩ := bind_eq_ok.mp h
      obtain ⟨members, union, rfl⟩ := (joined_eq_ok (readShapes_canonical read)).mp joint
      obtain ⟨lengths, each⟩ := readShapes_eq_ok.mp read
      refine .union hasKind found lengths (fun p hp => ?_) union
      have item : p.1 ∈ nodes := (List.of_mem_zip hp).1
      exact ((ih _ (mem_of_nodeUnder? found)).items rfl p.1 item).mp (each p hp)
    · cases h

theorem read_of_describes (h : Describes (.object fields) s) :
    readShape (.object fields) = .ok s := by
  cases h with
  | primitive hasKind primitive => exact readShape_primitive hasKind primitive
  | array hasKind found inner =>
    have read := (ih _ (mem_of_nodeUnder? found)).shape.mpr inner
    rw [readShape_array hasKind, found]
    simp [read, within, Except.map]
  | map hasKind found inner =>
    have read := (ih _ (mem_of_nodeUnder? found)).shape.mpr inner
    rw [readShape_map hasKind, found]
    simp [read, within, Except.map]
  | record hasKind found filled =>
    rw [readShape_record hasKind]
    exact readRef_eq_ok.mpr ⟨_, found, filled, rfl⟩
  | union hasKind found lengths each union =>
    next nodes shapes members =>
    have read : readShapes 0 nodes = .ok shapes := by
      refine readShapes_eq_ok.mpr ⟨lengths, fun p hp => ?_⟩
      have item : p.1 ∈ nodes := (List.of_mem_zip hp).1
      exact ((ih _ (mem_of_nodeUnder? found)).items rfl p.1 item).mpr (each p hp)
    rw [readShape_union hasKind, found]
    exact bind_eq_ok.mpr ⟨shapes, read,
      (joined_eq_ok (readShapes_canonical read)).mpr ⟨members, union, rfl⟩⟩

end Kinds

theorem readsExactly (node : Json) : ReadsExactly node := by
  induction node with
  | string kind =>
    refine ⟨fun {s} => ?_, fun other => by cases other⟩
    rw [readShape, readKind_eq_ok]
    constructor
    · exact .word
    · intro h
      cases h with
      | word primitive => exact primitive
  | object fields ih =>
    exact ⟨⟨describes_of_read ih, read_of_describes ih⟩, fun other => by cases other⟩
  | array items ih =>
    refine ⟨fun {s} => ⟨fun h => ?_, fun h => ?_⟩, fun same n inside => ?_⟩
    · simp [readShape] at h
    · cases h
    · cases same
      exact (ih n inside).shape
  | _ =>
    refine ⟨fun {s} => ⟨fun h => ?_, fun h => ?_⟩, fun other => by cases other⟩
    · simp [readShape] at h
    · cases h

/-- The reader of nodes gives exactly the shapes that they describe. -/
theorem readShape_eq_ok {node : Json} {s : Shape} : readShape node = .ok s ↔ Describes node s :=
  (readsExactly node).shape

theorem HasKind.unique {fields : Fields} {a b : Text} (ha : HasKind fields a)
    (hb : HasKind fields b) :
    a = b := by
  have same : some (Json.string a) = some (Json.string b) := ha.symm.trans hb
  exact Json.string.inj (Option.some.inj same)

/-- Where a node of a kind can mention a class. -/
theorem mentions_object {ref kind : Text} {fields : Fields} (hasKind : HasKind fields kind) :
    Mentions ref (.object fields) ↔
      kind = "class" ∧ nodeUnder? "ref" fields = some (.string ref) ∨
      kind = "array" ∧ (∃ node, nodeUnder? "items" fields = some node ∧ Mentions ref node) ∨
      kind = "map" ∧ (∃ node, nodeUnder? "values" fields = some node ∧ Mentions ref node) ∨
      kind = "union" ∧ ∃ nodes, nodeUnder? "members" fields = some (.array nodes) ∧
        ∃ node ∈ nodes, Mentions ref node := by
  constructor
  · intro h
    cases h with
    | here isRecord found => exact .inl ⟨hasKind.unique isRecord, found⟩
    | items isArray found inner => exact .inr (.inl ⟨hasKind.unique isArray, _, found, inner⟩)
    | values isMap found inner => exact .inr (.inr (.inl ⟨hasKind.unique isMap, _, found, inner⟩))
    | member isUnion found inside inner =>
      exact .inr (.inr (.inr ⟨hasKind.unique isUnion, _, found, _, inside, inner⟩))
  · rintro (⟨rfl, found⟩ | ⟨rfl, node, found, inner⟩ | ⟨rfl, node, found, inner⟩ |
      ⟨rfl, nodes, found, node, inside, inner⟩)
    · exact .here hasKind found
    · exact .items hasKind found inner
    · exact .values hasKind found inner
    · exact .member hasKind found inside inner

theorem Primitive.no_record {kind ref : Text} {s : Shape} (h : Primitive kind s) :
    .record ref ∉ s.walk := by
  cases h <;> simp [walk]

theorem Primitive.no_parts {kind : Text} {s : Shape} (h : Primitive kind s) :
    kind ≠ "class" ∧ kind ≠ "array" ∧ kind ≠ "map" ∧ kind ≠ "union" := by
  cases h <;> simp

/-- A union walks over what it offers, so flattening loses no reference. -/
theorem record_mem_alternatives {s : Shape} {ref : Text} :
    (∃ m ∈ alternatives s, .record ref ∈ m.walk) ↔ .record ref ∈ s.walk := by
  cases s with
  | union members => simp [alternatives, mem_walk_union]
  | _ => simp [alternatives]

theorem IsUnion.record_mem_walk {shapes members : List Shape} (h : IsUnion shapes members)
    {ref : Text} :
    .record ref ∈ (Shape.union members).walk ↔ ∃ s ∈ shapes, .record ref ∈ s.walk := by
  have members_iff : .record ref ∈ (Shape.union members).walk ↔
      ∃ m ∈ members, .record ref ∈ m.walk := by
    simp [mem_walk_union]
  rw [members_iff]
  constructor
  · rintro ⟨m, hm, inside⟩
    obtain ⟨s, hs, offered⟩ := (h.offered m).mp hm
    exact ⟨s, hs, record_mem_alternatives.mp ⟨m, offered, inside⟩⟩
  · rintro ⟨s, hs, inside⟩
    obtain ⟨m, offered, inside⟩ := record_mem_alternatives.mpr inside
    exact ⟨m, (h.offered m).mpr ⟨s, hs, offered⟩, inside⟩

/-- The references of a shape are the ones that its node mentions. -/
theorem Describes.mentions_iff {node : Json} {s : Shape} (h : Describes node s) {ref : Text} :
    Mentions ref node ↔ .record ref ∈ s.walk := by
  induction h with
  | word primitive =>
    refine iff_of_false (fun h => ?_) primitive.no_record
    cases h
  | primitive hasKind primitive =>
    obtain ⟨notRecord, notArray, notMap, notUnion⟩ := primitive.no_parts
    rw [mentions_object hasKind]
    simp [notRecord, notArray, notMap, notUnion, primitive.no_record]
  | array hasKind found _ ih => simp [mentions_object hasKind, found, ih, mem_walk_array]
  | map hasKind found _ ih => simp [mentions_object hasKind, found, ih, mem_walk_map]
  | record hasKind found _ => simp [mentions_object hasKind, found, walk, eq_comm]
  | union hasKind found lengths _ union ih =>
    next fields nodes shapes members _ =>
    have mentions : Mentions ref (.object fields) ↔ ∃ node ∈ nodes, Mentions ref node := by
      simp [mentions_object hasKind, found]
    rw [mentions, union.record_mem_walk]
    constructor
    · rintro ⟨node, hn, inside⟩
      obtain ⟨s, hp⟩ := exists_partner_right lengths hn
      exact ⟨s, (List.of_mem_zip hp).2, (ih _ hp).mp inside⟩
    · rintro ⟨s, hs, inside⟩
      obtain ⟨node, hp⟩ := exists_partner_left lengths hs
      exact ⟨node, (List.of_mem_zip hp).1, (ih _ hp).mpr inside⟩

end Shapewright.Document
