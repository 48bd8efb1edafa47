import Mathlib.Data.List.Forall2
import Mathlib.Data.List.Nodup
import Mathlib.Data.List.Perm.Subperm
import Shapewright.Proofs.Document.RoundTrip
import Shapewright.Proofs.Shape.Plain

/-!
# The notation of documents

Many documents describe one graph. The order of keys, the order, repetition and nesting of
alternatives, a word in place of an object, further keys and the way in which the names of a class
are listed are notation: documents that differ in nothing else give graphs that are the same but for
names that do not count.
-/
namespace Shapewright.Document
open Result Shape

/-- The node is a union of the listed ones. -/
def Unites (node : Json) (nodes : List Json) : Prop :=
  ∃ fields, node = .object fields ∧ HasKind fields "union" ∧
    nodeUnder? "members" fields = some (.array nodes)

/-- The node is one of the listed ones and no union, or stands in the list of a union among them. -/
inductive Offers : List Json → Json → Prop
  | here {nodes : List Json} {node : Json} :
      node ∈ nodes → (∀ inner, ¬ Unites node inner) → Offers nodes node
  | inside {nodes inner : List Json} {union node : Json} :
      union ∈ nodes → Unites union inner → Offers inner node → Offers nodes node

/-- A word stands for an object that has only this kind. -/
def OfKind (node : Json) (kind : Text) : Prop :=
  node = .string kind ∨ ∃ fields, node = .object fields ∧ HasKind fields kind

/-- The two nodes differ in notation only. Of two unions each alternative has a counterpart
in the other one. The counterparts come as a relation inside this one, which cannot stand
under the quantifiers itself. -/
inductive SameNode : Json → Json → Prop
  | primitive {a b : Json} {kind : Text} {s : Shape} :
      Primitive kind s → OfKind a kind → OfKind b kind → SameNode a b
  | array {fields others : Fields} {node other : Json} :
      HasKind fields "array" → nodeUnder? "items" fields = some node →
      HasKind others "array" → nodeUnder? "items" others = some other →
      SameNode node other → SameNode (.object fields) (.object others)
  | map {fields others : Fields} {node other : Json} :
      HasKind fields "map" → nodeUnder? "values" fields = some node →
      HasKind others "map" → nodeUnder? "values" others = some other →
      SameNode node other → SameNode (.object fields) (.object others)
  | record {fields others : Fields} {ref : Text} :
      HasKind fields "class" → nodeUnder? "ref" fields = some (.string ref) →
      HasKind others "class" → nodeUnder? "ref" others = some (.string ref) →
      SameNode (.object fields) (.object others)
  | union {a b : Json} {nodes others : List Json} {counterpart : Json → Json → Prop} :
      Unites a nodes → Unites b others →
      (∀ n m, counterpart n m → SameNode n m) →
      (∀ n, Offers nodes n → ∃ m, Offers others m ∧ counterpart n m) →
      (∀ m, Offers others m → ∃ n, Offers nodes n ∧ counterpart n m) → SameNode a b

/-- The same properties in any order. -/
structure SameProperties (properties others : Fields) : Prop where
  keys : properties.keys.Perm others.keys
  nodes : ∀ p ∈ properties, ∀ q ∈ others, p.1 = q.1 → SameNode p.2 q.2

/-- The names that a class is given; a class without names has its reference for a name. -/
inductive Named (ref : Text) (fields : Fields) : List Text → Prop
  | absent : nodeUnder? "names" fields = none → Named ref fields [ref]
  | empty : nodeUnder? "names" fields = some (.array []) → Named ref fields [ref]
  | single {name : Text} : nodeUnder? "names" fields = some (.string name) → Named ref fields [name]
  | list {names : List Text} :
      nodeUnder? "names" fields = some (.array (names.map .string)) → names ≠ [] →
        Named ref fields names

/-- The same names in any order and however often, and the same properties. -/
inductive SameClass (ref : Text) : Json → Json → Prop
  | intro {fields others properties otherProperties : Fields} {names otherNames : List Text} :
      Named ref fields names → Named ref others otherNames →
        (∀ name, name ∈ names ↔ name ∈ otherNames) →
      ObjectUnder "properties" fields properties → ObjectUnder "properties" others otherProperties →
      SameProperties properties otherProperties → SameClass ref (.object fields) (.object others)

/-- The same classes in the same order, and the same node at the top. -/
inductive SameDocument : Json → Json → Prop
  | intro {fields others classes otherClasses : Fields} {root otherRoot : Json} :
      ObjectUnder "classes" fields classes → ObjectUnder "classes" others otherClasses →
      List.Forall₂ (fun c k => c.1 = k.1 ∧ SameClass c.1 c.2 k.2) classes otherClasses →
      nodeUnder? "top_level" fields = some root → nodeUnder? "top_level" others = some otherRoot →
      SameNode root otherRoot → SameDocument (.object fields) (.object others)

theorem Describes.unique {node : Json} {s t : Shape} (hs : Describes node s)
    (ht : Describes node t) : s = t :=
  Except.ok.inj ((readShape_eq_ok.mpr hs).symm.trans (readShape_eq_ok.mpr ht))

theorem OfKind.describes {node : Json} {kind : Text} {s : Shape} (h : OfKind node kind)
    (primitive : Primitive kind s) :
    Describes node s := by
  rcases h with rfl | ⟨fields, rfl, hasKind⟩
  · exact .word primitive
  · exact .primitive hasKind primitive

section Inversion
variable {fields : Fields} {s : Shape}

theorem describes_array {node : Json} (hasKind : HasKind fields "array")
    (found : nodeUnder? "items" fields = some node) (h : Describes (.object fields) s) :
    ∃ items, Describes node items ∧ s = .array items := by
  have read := readShape_eq_ok.mpr h
  rw [readShape_array hasKind, found] at read
  obtain ⟨items, inner, rfl⟩ := map_eq_ok.mp read
  exact ⟨items, readShape_eq_ok.mp (within_eq_ok.mp inner), rfl⟩

theorem describes_map {node : Json} (hasKind : HasKind fields "map")
    (found : nodeUnder? "values" fields = some node) (h : Describes (.object fields) s) :
    ∃ values, Describes node values ∧ s = .map values := by
  have read := readShape_eq_ok.mpr h
  rw [readShape_map hasKind, found] at read
  obtain ⟨values, inner, rfl⟩ := map_eq_ok.mp read
  exact ⟨values, readShape_eq_ok.mp (within_eq_ok.mp inner), rfl⟩

theorem describes_record {ref : Text} (hasKind : HasKind fields "class")
    (found : nodeUnder? "ref" fields = some (.string ref)) (h : Describes (.object fields) s) :
    s = .record ref := by
  have read := readShape_eq_ok.mpr h
  rw [readShape_record hasKind] at read
  obtain ⟨other, also, -, rfl⟩ := readRef_eq_ok.mp read
  rw [Json.string.inj (Option.some.inj (found.symm.trans also))]

end Inversion

/-- What a union of nodes describes: the alternatives of what its nodes describe. -/
structure Gathered (nodes : List Json) (members : List Shape) : Prop where
  ordered : Ordered members
  described : ∀ n ∈ nodes, ∃ t, Describes n t ∧ ∀ m ∈ alternatives t, m ∈ members
  offered : ∀ m ∈ members, ∃ n ∈ nodes, ∃ t, Describes n t ∧ m ∈ alternatives t

theorem Unites.gathered {node : Json} {nodes : List Json} {s : Shape} (unites : Unites node nodes)
    (h : Describes node s) : ∃ members, s = .union members ∧ Gathered nodes members := by
  obtain ⟨fields, rfl, hasKind, found⟩ := unites
  have read := readShape_eq_ok.mpr h
  rw [readShape_union hasKind, found] at read
  obtain ⟨shapes, readAll, joint⟩ := bind_eq_ok.mp read
  obtain ⟨members, union, rfl⟩ := (joined_eq_ok (readShapes_canonical readAll)).mp joint
  obtain ⟨lengths, each⟩ := readShapes_eq_ok.mp readAll
  refine ⟨members, rfl, union.ordered, fun n hn => ?_, fun m hm => ?_⟩
  · obtain ⟨t, hp⟩ := exists_partner_right lengths hn
    have offered (m : Shape) (hm : m ∈ alternatives t) : m ∈ members :=
      (union.offered m).mpr ⟨t, (List.of_mem_zip hp).2, hm⟩
    exact ⟨t, readShape_eq_ok.mp (each _ hp), offered⟩
  · obtain ⟨t, ht, offered⟩ := (union.offered m).mp hm
    obtain ⟨n, hp⟩ := exists_partner_left lengths ht
    exact ⟨n, (List.of_mem_zip hp).1, t, readShape_eq_ok.mp (each _ hp), offered⟩

theorem Describes.isUnion_iff {node : Json} {s : Shape} (h : Describes node s) :
    s.isUnion ↔ ∃ inner, Unites node inner := by
  constructor
  · intro isUnion
    cases h with
    | union hasKind found => exact ⟨_, _, rfl, hasKind, found⟩
    | word primitive => cases primitive <;> cases isUnion
    | primitive _ primitive => cases primitive <;> cases isUnion
    | _ => cases isUnion
  · rintro ⟨inner, unites⟩
    obtain ⟨members, rfl, -⟩ := unites.gathered h
    rfl

theorem alternatives_of_flat {s : Shape} (flat : ¬ s.isUnion) : alternatives s = [s] := by
  cases s with
  | union members => exact absurd rfl flat
  | _ => rfl

theorem Primitive.flat {kind : Text} {s : Shape} (h : Primitive kind s) : ¬ s.isUnion := by
  cases h <;> exact Bool.false_ne_true

theorem Describes.offers_itself {node : Json} {s m : Shape} (h : Describes node s)
    (flat : ¬ s.isUnion) (hm : m ∈ alternatives s) {nodes : List Json} (listed : node ∈ nodes) :
    ∃ n, Offers nodes n ∧ Describes n m := by
  rw [alternatives_of_flat flat, List.mem_singleton] at hm
  exact ⟨node, .here listed (not_exists.mp (mt h.isUnion_iff.mpr flat)), hm ▸ h⟩

/-- Every alternative of a listed node is described by a node on offer. On the way down the list
changes: inside a union it is the list of that union. -/
theorem Describes.exists_offer {node : Json} {s m : Shape} (h : Describes node s)
    (hm : m ∈ alternatives s) {nodes : List Json} (listed : node ∈ nodes) :
    ∃ n, Offers nodes n ∧ Describes n m := by
  induction h generalizing nodes with
  | word primitive => exact (Describes.word primitive).offers_itself primitive.flat hm listed
  | primitive hasKind primitive =>
    exact (Describes.primitive hasKind primitive).offers_itself primitive.flat hm listed
  | array hasKind found inner =>
    exact (Describes.array hasKind found inner).offers_itself Bool.false_ne_true hm listed
  | map hasKind found inner =>
    exact (Describes.map hasKind found inner).offers_itself Bool.false_ne_true hm listed
  | record hasKind found filled =>
    exact (Describes.record hasKind found filled).offers_itself Bool.false_ne_true hm listed
  | union hasKind found lengths each union ih =>
    next inner shapes members =>
    obtain ⟨t, ht, offered⟩ := (union.offered m).mp hm
    obtain ⟨partner, hp⟩ := exists_partner_left lengths ht
    obtain ⟨n, offer, describes⟩ := ih (partner, t) hp offered (List.of_mem_zip hp).1
    exact ⟨n, .inside listed ⟨_, rfl, hasKind, found⟩ offer, describes⟩

/-- What is on offer is described. -/
theorem Offers.exists_member {nodes : List Json} {n : Json} (offer : Offers nodes n)
    {members : List Shape} (gathered : Gathered nodes members) : ∃ m ∈ members, Describes n m := by
  induction offer generalizing members with
  | here listed lone =>
    obtain ⟨t, describes, offered⟩ := gathered.described _ listed
    have flat : ¬ t.isUnion := mt describes.isUnion_iff.mp (not_exists.mpr lone)
    exact ⟨t, offered t (alternatives_of_flat flat ▸ List.mem_singleton_self t), describes⟩
  | inside listed unites _ ih =>
    obtain ⟨t, describes, offered⟩ := gathered.described _ listed
    obtain ⟨inner, rfl, gatheredInner⟩ := unites.gathered describes
    obtain ⟨m, hm, describesIt⟩ := ih gatheredInner
    exact ⟨m, offered m hm, describesIt⟩

/-- The members of a union are what its offers describe. -/
theorem Gathered.mem_iff {nodes : List Json} {members : List Shape}
    (gathered : Gathered nodes members) {m : Shape} :
    m ∈ members ↔ ∃ n, Offers nodes n ∧ Describes n m := by
  constructor
  · intro hm
    obtain ⟨n, listed, t, describes, offered⟩ := gathered.offered m hm
    exact describes.exists_offer offered listed
  · rintro ⟨n, offer, describes⟩
    obtain ⟨t, ht, describesIt⟩ := offer.exists_member gathered
    exact describes.unique describesIt ▸ ht

/-- Nodes that differ in notation only describe one shape. -/
theorem SameNode.shape_eq {a b : Json} (same : SameNode a b) {s t : Shape} (hs : Describes a s)
    (ht : Describes b t) : s = t := by
  induction same generalizing s t with
  | primitive primitive ofA ofB =>
    rw [hs.unique (ofA.describes primitive), ht.unique (ofB.describes primitive)]
  | array kindA foundA kindB foundB _ ih =>
    obtain ⟨items, inner, rfl⟩ := describes_array kindA foundA hs
    obtain ⟨otherItems, otherInner, rfl⟩ := describes_array kindB foundB ht
    rw [ih inner otherInner]
  | map kindA foundA kindB foundB _ ih =>
    obtain ⟨values, inner, rfl⟩ := describes_map kindA foundA hs
    obtain ⟨otherValues, otherInner, rfl⟩ := describes_map kindB foundB ht
    rw [ih inner otherInner]
  | record kindA foundA kindB foundB =>
    rw [describes_record kindA foundA hs, describes_record kindB foundB ht]
  | union unitesA unitesB _ forth back ih =>
    obtain ⟨members, rfl, gathered⟩ := unitesA.gathered hs
    obtain ⟨others, rfl, otherGathered⟩ := unitesB.gathered ht
    have members_iff (m : Shape) : m ∈ members ↔ m ∈ others := by
      constructor
      · intro hm
        obtain ⟨n, offer, describes⟩ := gathered.mem_iff.mp hm
        obtain ⟨k, otherOffer, counterpart⟩ := forth n offer
        obtain ⟨t, ht, describesIt⟩ := otherOffer.exists_member otherGathered
        exact ih n k counterpart describes describesIt ▸ ht
      · intro hm
        obtain ⟨k, offer, describes⟩ := otherGathered.mem_iff.mp hm
        obtain ⟨n, otherOffer, counterpart⟩ := back k offer
        obtain ⟨t, ht, describesIt⟩ := otherOffer.exists_member gathered
        exact ih n k counterpart describesIt describes ▸ ht
    rw [Ordered.ext gathered.ordered otherGathered.ordered members_iff]

theorem Primitive.kind_unique {a b : Text} {s : Shape} (ha : Primitive a s) (hb : Primitive b s) :
    a = b := by
  cases ha <;> cases hb <;> rfl

theorem Primitive.ofKind {kind : Text} {s : Shape} (primitive : Primitive kind s) {node : Json}
    (h : Describes node s) :
    OfKind node kind := by
  cases h with
  | word other => exact .inl (congrArg Json.string (other.kind_unique primitive))
  | primitive hasKind other => exact .inr ⟨_, rfl, other.kind_unique primitive ▸ hasKind⟩
  | _ => cases primitive

theorem Primitive.sameNode {kind : Text} {s : Shape} (primitive : Primitive kind s) {a b : Json}
    (ha : Describes a s) (hb : Describes b s) : SameNode a b :=
  .primitive primitive (primitive.ofKind ha) (primitive.ofKind hb)

theorem array_described {node : Json} {items : Shape} (h : Describes node (.array items)) :
    ∃ fields inner, node = .object fields ∧ HasKind fields "array" ∧
      nodeUnder? "items" fields = some inner ∧
      Describes inner items := by
  cases h with
  | array hasKind found inner => exact ⟨_, _, rfl, hasKind, found, inner⟩
  | word primitive | primitive _ primitive => cases primitive

theorem map_described {node : Json} {values : Shape} (h : Describes node (.map values)) :
    ∃ fields inner, node = .object fields ∧ HasKind fields "map" ∧
      nodeUnder? "values" fields = some inner ∧
      Describes inner values := by
  cases h with
  | map hasKind found inner => exact ⟨_, _, rfl, hasKind, found, inner⟩
  | word primitive | primitive _ primitive => cases primitive

theorem record_described {node : Json} {ref : Text} (h : Describes node (.record ref)) :
    ∃ fields, node = .object fields ∧ HasKind fields "class" ∧
      nodeUnder? "ref" fields = some (.string ref) := by
  cases h with
  | record hasKind found _ => exact ⟨_, rfl, hasKind, found⟩
  | word primitive | primitive _ primitive => cases primitive

theorem union_described {node : Json} {members : List Shape} (h : Describes node (.union members)) :
    ∃ nodes, Unites node nodes ∧ Gathered nodes members := by
  obtain ⟨nodes, unites⟩ := h.isUnion_iff.mp rfl
  obtain ⟨_, same, gathered⟩ := unites.gathered h
  cases same
  exact ⟨nodes, unites, gathered⟩

/-- Nodes that describe one shape differ in notation only. -/
theorem sameNode_of_describes {s : Shape} {a b : Json} (ha : Describes a s) (hb : Describes b s) :
    SameNode a b := by
  induction s generalizing a b with
  | nothing => exact Primitive.nothing.sameNode ha hb
  | null => exact Primitive.null.sameNode ha hb
  | boolean => exact Primitive.boolean.sameNode ha hb
  | integer => exact Primitive.integer.sameNode ha hb
  | double => exact Primitive.double.sameNode ha hb
  | string => exact Primitive.string.sameNode ha hb
  | array items ih =>
    obtain ⟨fields, node, rfl, kind, found, inner⟩ := array_described ha
    obtain ⟨others, other, rfl, otherKind, otherFound, otherInner⟩ := array_described hb
    exact .array kind found otherKind otherFound (ih inner otherInner)
  | map values ih =>
    obtain ⟨fields, node, rfl, kind, found, inner⟩ := map_described ha
    obtain ⟨others, other, rfl, otherKind, otherFound, otherInner⟩ := map_described hb
    exact .map kind found otherKind otherFound (ih inner otherInner)
  | record ref =>
    obtain ⟨fields, rfl, kind, found⟩ := record_described ha
    obtain ⟨others, rfl, otherKind, otherFound⟩ := record_described hb
    exact .record kind found otherKind otherFound
  | union members ih =>
    obtain ⟨nodes, unites, gathered⟩ := union_described ha
    obtain ⟨others, otherUnites, otherGathered⟩ := union_described hb
    refine .union unites otherUnites (fun _ _ same => same) (fun n offer => ?_) fun k offer => ?_
    · obtain ⟨m, hm, describes⟩ := offer.exists_member gathered
      obtain ⟨k, otherOffer, otherDescribes⟩ := otherGathered.mem_iff.mp hm
      exact ⟨k, otherOffer, ih m hm describes otherDescribes⟩
    · obtain ⟨m, hm, describes⟩ := offer.exists_member otherGathered
      obtain ⟨n, otherOffer, otherDescribes⟩ := gathered.mem_iff.mp hm
      exact ⟨n, otherOffer, ih m hm otherDescribes describes⟩

theorem Named.read {ref : Text} {fields : Fields} {names : List Text} (h : Named ref fields names) :
    readNames ref fields = .ok names := by
  cases h with
  | absent found => simp [readNames, found]
  | empty found => simp [readNames, found, readTexts]
  | single found => simp [readNames, found]
  | list found filled => exact readNames_list found filled

section Properties
variable {properties others : Fields} (same : SameProperties properties others)
  {shapes otherShapes : Entries Text Shape}
  (read : readEach (fun _ => readShape) properties = .ok shapes)
  (readOther : readEach (fun _ => readShape) others = .ok otherShapes)
include same read readOther

theorem SameProperties.subset : shapes ⊆ otherShapes := by
  intro e he
  obtain ⟨p, hp, key, describes⟩ := (mem_readEach read).mp he
  obtain ⟨q, hq, sameKey⟩ := List.mem_map.mp (same.keys.mem_iff.mp (List.mem_map_of_mem hp))
  obtain ⟨t, describesOther⟩ := exists_readEach.mp ⟨otherShapes, readOther⟩ q hq
  have shape : e.2 = t :=
    (same.nodes p hp q hq sameKey.symm).shape_eq (readShape_eq_ok.mp describes)
      (readShape_eq_ok.mp describesOther)
  exact (mem_readEach readOther).mpr ⟨q, hq, sameKey.trans key, shape ▸ describesOther⟩

/-- The second list is no longer than the first, so it holds nothing else. -/
theorem SameProperties.perm (once : properties.keys.Nodup) : shapes.Perm otherShapes := by
  have keys : shapes.keys.Perm otherShapes.keys := by
    rw [readEach_keys read, readEach_keys readOther]
    exact same.keys
  have lengths : otherShapes.length ≤ shapes.length := by
    simpa [Entries.keys] using Nat.le_of_eq keys.length_eq.symm
  have nodup : shapes.Nodup :=
    List.Nodup.of_map _ (show shapes.keys.Nodup from readEach_keys read ▸ once)
  exact (nodup.subperm (same.subset read readOther)).perm_of_length_le lengths

end Properties

/-- Two notations of a class give one plain class. -/
theorem SameClass.plain_eq {ref : Text} {a b : Json} (same : SameClass ref a b) (once : a.KeysOnce)
    {c k : RecordClass} (read : readClass ref a = .ok c) (readOther : readClass ref b = .ok k) :
    c.plain = k.plain := by
  obtain @⟨_, _, _, _, names, otherNames, named, otherNamed, sameNames, under, otherUnder,
      sameProperties⟩ := same
  obtain ⟨_, _, _, shapes, object, namesRead, found, shapesRead, rfl⟩ := readClass_eq_ok.mp read
  obtain ⟨_, _, _, otherShapes, otherObject, otherNamesRead, otherFound, otherRead, rfl⟩ :=
    readClass_eq_ok.mp readOther
  cases object
  cases otherObject
  cases named.read.symm.trans namesRead
  cases otherNamed.read.symm.trans otherNamesRead
  cases under.unique found
  cases otherUnder.unique otherFound
  have distinct := keys_nodup_of_keysOnce once under
  have perm := sameProperties.perm shapesRead otherRead distinct
  have properties_eq :=
    RecordClass.new_properties_eq perm (readEach_keys shapesRead ▸ distinct) ref names otherNames
  have best : combinedName names ref = combinedName otherNames ref :=
    combinedName_congr sameNames ref
  change RecordClass.mk ref [combinedName names ref] _ = .mk ref [combinedName otherNames ref] _
  rw [best, properties_eq]

/-- Two notations of the classes of a document give the same plain classes. -/
theorem plain_classes_eq {classNodes others : Fields}
    (same : List.Forall₂ (fun c k => c.1 = k.1 ∧ SameClass c.1 c.2 k.2) classNodes others)
    (once : ∀ c ∈ classNodes, c.2.KeysOnce) {classes otherClasses : Entries Text RecordClass}
    (read : readEach readClass classNodes = .ok classes)
    (readOther : readEach readClass others = .ok otherClasses) :
    (classes.map (·.2)).map (·.plain) = (otherClasses.map (·.2)).map (·.plain) := by
  induction same generalizing classes otherClasses with
  | nil =>
    cases read
    cases readOther
    rfl
  | @cons node other _ _ entry _ ih =>
    obtain ⟨ref, node⟩ := node
    obtain ⟨ref, other⟩ := other
    obtain ⟨rfl, same⟩ := entry
    obtain ⟨here, rest⟩ := List.forall_mem_cons.mp once
    obtain ⟨c, classes, first, readRest, rfl⟩ := readEach_cons.mp read
    obtain ⟨k, otherClasses, otherFirst, otherRest, rfl⟩ := readEach_cons.mp readOther
    simp only [List.map_cons, ih rest readRest otherRest, same.plain_eq here first otherFirst]

/-- Two notations of a document give one plain graph. -/
theorem SameDocument.plain_eq {d e : Json} (same : SameDocument d e) (once : d.KeysOnce)
    (onceOther : e.KeysOnce) {g h : Graph} (read : readGraph d = .ok g)
    (readOther : readGraph e = .ok h) : g.plain = h.plain := by
  obtain ⟨under, otherUnder, sameClasses, root, otherRoot, sameRoot⟩ := same
  obtain ⟨_, _, _, classes, topLevel, object, rootFound, found, classesRead, topRead, rfl, -⟩ :=
    readGraph_eq_ok.mp read
  obtain ⟨_, _, _, otherClasses, otherTop, otherObject, otherRootFound, otherFound, otherRead,
      otherTopRead, rfl, -⟩ :=
    readGraph_eq_ok.mp readOther
  cases object
  cases otherObject
  cases under.unique found
  cases otherUnder.unique otherFound
  cases root.symm.trans rootFound
  cases otherRoot.symm.trans otherRootFound
  have top : topLevel = otherTop :=
    sameRoot.shape_eq (readShape_eq_ok.mp topRead) (readShape_eq_ok.mp otherTopRead)
  have refs := keys_nodup_of_keysOnce once under
  have otherRefs := keys_nodup_of_keysOnce onceOther otherUnder
  rw [← read_refs classesRead] at refs
  rw [← read_refs otherRead] at otherRefs
  have nodes := (Json.keysOnce_object.mp (under.keysOnce once)).2
  rw [Graph.new_eq refs, Graph.new_eq otherRefs, Graph.plain, Graph.plain,
    plain_classes_eq sameClasses nodes classesRead otherRead, top]

end Shapewright.Document
