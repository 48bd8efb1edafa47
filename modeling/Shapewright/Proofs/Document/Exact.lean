import Shapewright.Proofs.Document.Grammar
import Shapewright.Proofs.Shape.Join

/-!
# Exactness of the reader

The reader accepts the documents of the grammar and refuses everything else with a fault. The
references that it checks on the graph are those that the nodes mention.
-/
namespace Shapewright.Document
open Result Shape

theorem asObject_eq_ok {part : Part} {node : Json} {fields : Fields} :
    asObject part node = .ok fields ↔ node = .object fields := by
  cases node <;> simp [asObject]

theorem objectUnder_eq_ok {key : Text} {part : Part} {fields entries : Fields} :
    objectUnder key part fields = .ok entries ↔ ObjectUnder key fields entries := by
  unfold objectUnder ObjectUnder
  cases nodeUnder? key fields with
  | none => simp [eq_comm]
  | some node => simp [within_eq_ok, asObject_eq_ok]

theorem ObjectUnder.unique {key : Text} {fields a b : Fields} (ha : ObjectUnder key fields a)
    (hb : ObjectUnder key fields b) : a = b := by
  rcases ha with ⟨ha, rfl⟩ | ha
  · rcases hb with ⟨-, rfl⟩ | hb
    · rfl
    · cases ha.symm.trans hb
  · rcases hb with ⟨hb, -⟩ | hb
    · cases ha.symm.trans hb
    · exact Json.object.inj (Option.some.inj (ha.symm.trans hb))

/-- What an object under a key inherits from the object around it. -/
theorem ObjectUnder.inherits {P : Json → Prop} {key : Text} {fields entries : Fields}
    (under : ObjectUnder key fields entries) (empty : P (.object []))
    (inner : ∀ field ∈ fields, P field.2) :
    P (.object entries) := by
  rcases under with ⟨-, rfl⟩ | found
  · exact empty
  · exact inner _ (mem_of_nodeUnder? found)

theorem ObjectUnder.keysOnce {key : Text} {fields entries : Fields}
    (under : ObjectUnder key fields entries) (once : (Json.object fields).KeysOnce) :
    (Json.object entries).KeysOnce :=
  under.inherits (by simp [Entries.keys]) (Json.keysOnce_object.mp once).2

theorem HasProperties.unique {node : Json} {a b : Fields} (ha : HasProperties node a)
    (hb : HasProperties node b) : a = b := by
  obtain ⟨fields, rfl, ha⟩ := ha
  obtain ⟨_, same, hb⟩ := hb
  cases same
  exact ha.unique hb

theorem readTexts_eq_some {nodes : List Json} {names : List Text} :
    readTexts nodes = some names ↔ nodes = names.map .string := by
  induction nodes generalizing names with
  | nil => cases names <;> simp [readTexts]
  | cons node nodes ih =>
    cases node with
    | string s =>
      cases names with
      | nil => simp [readTexts]
      | cons name names =>
        simp only [readTexts, Option.map_eq_some_iff, ih, List.cons.injEq, List.map_cons,
          Json.string.injEq]
        constructor
        · rintro ⟨names, rfl, rfl, rfl⟩
          exact ⟨rfl, rfl⟩
        · rintro ⟨rfl, rfl⟩
          exact ⟨names, rfl, rfl, rfl⟩
    | _ => cases names <;> simp [readTexts]

theorem exists_readNames {ref : Text} {fields : Fields} :
    (∃ names, readNames ref fields = .ok names) ↔ HasNames fields := by
  constructor
  · rintro ⟨names, h⟩
    unfold readNames at h
    cases found : nodeUnder? "names" fields with
    | none => exact .inl found
    | some node =>
      cases node with
      | string name => exact .inr (.inl ⟨name, found⟩)
      | array nodes =>
        cases texts : readTexts nodes with
        | none => simp [found, texts] at h
        | some names => exact .inr (.inr ⟨names, readTexts_eq_some.mp texts ▸ found⟩)
      | _ => simp [found] at h
  · rintro (absent | ⟨name, found⟩ | ⟨names, found⟩)
    · exact ⟨[ref], by simp [readNames, absent]⟩
    · exact ⟨[name], by simp [readNames, found]⟩
    · have texts : readTexts (names.map .string) = some names := readTexts_eq_some.mpr rfl
      cases names with
      | nil => exact ⟨[ref], by simp [readNames, found, readTexts]⟩
      | cons name names => exact ⟨name :: names, by simp only [readNames, found, texts]⟩

theorem readClass_eq_ok {ref : Text} {node : Json} {c : RecordClass} :
    readClass ref node = .ok c ↔
      ∃ fields names properties shapes, node = .object fields ∧ readNames ref fields = .ok names ∧
        ObjectUnder "properties" fields properties ∧
        readEach (fun _ => readShape) properties = .ok shapes ∧
        .new ref names shapes = c := by
  simp only [readClass, bind_eq_ok, within_eq_ok, asObject_eq_ok, objectUnder_eq_ok, pure_eq,
    Except.ok.injEq]
  constructor
  · rintro ⟨fields, object, names, named, properties, under, shapes, read, same⟩
    exact ⟨fields, names, properties, shapes, object, named, under, read, same⟩
  · rintro ⟨fields, names, properties, shapes, object, named, under, read, same⟩
    exact ⟨fields, object, names, named, properties, under, shapes, read, same⟩

theorem readGraph_eq_ok {document : Json} {g : Graph} :
    readGraph document = .ok g ↔
      ∃ fields root classNodes classes topLevel, document = .object fields ∧
        nodeUnder? "top_level" fields = some root ∧ ObjectUnder "classes" fields classNodes ∧
        readEach readClass classNodes = .ok classes ∧ readShape root = .ok topLevel ∧
        .new (classes.map (·.2)) topLevel = g ∧ g.danglingRefs = [] := by
  constructor
  · intro h
    obtain ⟨fields, object, h⟩ := bind_eq_ok.mp h
    split at h
    · next root found =>
      obtain ⟨classNodes, under, h⟩ := bind_eq_ok.mp h
      obtain ⟨classes, readClasses, h⟩ := bind_eq_ok.mp h
      obtain ⟨topLevel, readTop, h⟩ := bind_eq_ok.mp h
      dsimp only at h
      split at h
      · next resolved =>
        cases h
        exact ⟨fields, root, classNodes, classes, topLevel, asObject_eq_ok.mp object, found,
          objectUnder_eq_ok.mp under, within_eq_ok.mp readClasses, within_eq_ok.mp readTop, rfl,
          resolved⟩
      · cases h
    · cases h
  · rintro ⟨fields, root, classNodes, classes, topLevel, rfl, found, under, readClasses, readTop,
      rfl, resolved⟩
    have classesUnder : objectUnder "classes" .classes fields = .ok classNodes :=
      objectUnder_eq_ok.mpr under
    simp [readGraph, asObject, found, classesUnder, readClasses, readTop, within, resolved]

theorem exists_readClass {ref : Text} {node : Json} :
    (∃ c, readClass ref node = .ok c) ↔ IsClass node := by
  simp only [readClass_eq_ok]
  constructor
  · rintro ⟨_, fields, names, properties, shapes, rfl, named, under, read, -⟩
    refine ⟨⟨fields, rfl, exists_readNames.mp ⟨names, named⟩⟩, properties, ⟨fields, rfl, under⟩,
      fun p hp => ?_⟩
    obtain ⟨s, hs⟩ := exists_readEach.mp ⟨shapes, read⟩ p hp
    exact ⟨s, readShape_eq_ok.mp hs⟩
  · rintro ⟨⟨fields, rfl, named⟩, properties, ⟨_, same, under⟩, nodes⟩
    cases same
    obtain ⟨names, named⟩ : ∃ names, readNames ref fields = .ok names := exists_readNames.mpr named
    obtain ⟨shapes, read⟩ : ∃ shapes, readEach (fun _ => readShape) properties = .ok shapes := by
      refine exists_readEach.mpr fun p hp => ?_
      obtain ⟨s, hs⟩ := nodes p hp
      exact ⟨s, readShape_eq_ok.mpr hs⟩
    exact ⟨_, fields, names, properties, shapes, rfl, named, under, read, rfl⟩

theorem readClass_ref {ref : Text} {node : Json} {c : RecordClass}
    (h : readClass ref node = .ok c) :
    c.ref = ref := by
  obtain ⟨_, _, _, _, -, -, -, -, rfl⟩ := readClass_eq_ok.mp h
  rfl

/-- The properties of a class refer to what the nodes of its properties mention. -/
theorem record_mem_class {ref r : Text} {node : Json} {c : RecordClass}
    (h : readClass ref node = .ok c) :
    (∃ p ∈ c.properties, .record r ∈ p.2.walk) ↔
      ∃ properties, HasProperties node properties ∧ ∃ p ∈ properties, Mentions r p.2 := by
  obtain ⟨fields, names, properties, shapes, rfl, -, under, read, rfl⟩ := readClass_eq_ok.mp h
  constructor
  · rintro ⟨p, hp, inside⟩
    obtain ⟨field, given, -, readIt⟩ := (mem_readEach read).mp (Ordered.mem_sort.mp hp)
    exact ⟨properties, ⟨fields, rfl, under⟩, field, given,
      (readShape_eq_ok.mp readIt).mentions_iff.mpr inside⟩
  · rintro ⟨others, hasProperties, field, given, mentioned⟩
    obtain rfl := hasProperties.unique ⟨fields, rfl, under⟩
    obtain ⟨s, readIt⟩ := exists_readEach.mp ⟨shapes, read⟩ field given
    have inside : (field.1, s) ∈ shapes := (mem_readEach read).mpr ⟨field, given, rfl, readIt⟩
    exact ⟨(field.1, s), Ordered.mem_sort.mpr inside,
      (readShape_eq_ok.mp readIt).mentions_iff.mp mentioned⟩

section Graphs
variable {root : Json} {classNodes : Fields} {classes : Entries Text RecordClass} {topLevel : Shape}
  (readTop : readShape root = .ok topLevel)
  (readClasses : readEach readClass classNodes = .ok classes)
include readClasses

theorem read_refs : (classes.map (·.2)).map (·.ref) = classNodes.keys := by
  rw [← readEach_keys readClasses, List.map_map, Entries.keys]
  refine List.map_congr_left fun e he => ?_
  obtain ⟨field, -, same, read⟩ := (mem_readEach readClasses).mp he
  exact (readClass_ref read).trans same

include readTop

theorem record_mem_shapes {ref : Text} :
    .record ref ∈ (Graph.mk (classes.map (·.2)) topLevel).shapes ↔
      Referred ref root classNodes := by
  rw [Graph.mem_shapes, ← (readShape_eq_ok.mp readTop).mentions_iff, Referred]
  refine or_congr_right ⟨?_, ?_⟩
  · rintro ⟨c, hc, inside⟩
    obtain ⟨e, he, rfl⟩ := List.mem_map.mp hc
    obtain ⟨field, given, -, read⟩ := (mem_readEach readClasses).mp he
    exact ⟨field, given, (record_mem_class read).mp inside⟩
  · rintro ⟨field, given, mentioned⟩
    obtain ⟨c, read⟩ := exists_readEach.mp ⟨classes, readClasses⟩ field given
    have inside : (field.1, c) ∈ classes := (mem_readEach readClasses).mpr ⟨field, given, rfl, read⟩
    exact ⟨c, List.mem_map_of_mem inside, (record_mem_class read).mpr mentioned⟩

theorem resolved_iff (once : classNodes.keys.Nodup) :
    (Graph.new (classes.map (·.2)) topLevel).danglingRefs = [] ↔
      ∀ ref, Referred ref root classNodes → ref ∈ classNodes.keys := by
  have refs := read_refs readClasses
  rw [Graph.new_eq (refs ▸ once), Graph.danglingRefs_eq_nil, refs]
  simp only [record_mem_shapes readTop readClasses]

end Graphs

/-- In a document whose objects have each key once the keys of what stands under a key are
distinct. -/
theorem keys_nodup_of_keysOnce {key : Text} {fields entries : Fields}
    (once : (Json.object fields).KeysOnce) (under : ObjectUnder key fields entries) :
    entries.keys.Nodup :=
  (Json.keysOnce_object.mp (under.keysOnce once)).1

theorem exists_readGraph {document : Json} (once : document.KeysOnce) :
    (∃ g, readGraph document = .ok g) ↔ IsDocument document := by
  simp only [readGraph_eq_ok]
  constructor
  · rintro ⟨_, fields, root, classNodes, classes, topLevel, rfl, found, under, readClasses, readTop,
      rfl, resolved⟩
    refine ⟨fields, root, classNodes, rfl, found, under, ⟨topLevel, readShape_eq_ok.mp readTop⟩, ?_,
      ?_⟩
    · intro c hc
      exact exists_readClass.mp (exists_readEach.mp ⟨classes, readClasses⟩ c hc)
    · exact (resolved_iff readTop readClasses (keys_nodup_of_keysOnce once under)).mp resolved
  · rintro ⟨fields, root, classNodes, rfl, found, under, ⟨topLevel, describes⟩, classesWell,
      refsWell⟩
    have readTop := readShape_eq_ok.mpr describes
    obtain ⟨classes, readClasses⟩ : ∃ classes, readEach readClass classNodes = .ok classes :=
      exists_readEach.mpr fun c hc => exists_readClass.mpr (classesWell c hc)
    have resolved :=
      (resolved_iff readTop readClasses (keys_nodup_of_keysOnce once under)).mpr refsWell
    exact ⟨_, fields, root, classNodes, classes, topLevel, rfl, found, under, readClasses, readTop,
      rfl, resolved⟩

/-- Members that were read join without an error, and a union that they make passes its own
check. -/
theorem join_of_read {index : Nat} {nodes : List Json} {shapes : List Shape}
    (h : readShapes index nodes = .ok shapes) (filled : shapes ≠ []) :
    ∃ s, join shapes = .ok s ∧ ∀ members, s = .union members → unionOf members = .ok s := by
  obtain ⟨s, joint, isJoin⟩ := exists_join filled (readShapes_canonical h)
  refine ⟨s, by simp [join, joint], ?_⟩
  rintro members rfl
  exact unionOf_canonical isJoin.canonical

/-- The reader accepts the grammar and refuses everything else with a fault; nothing else can
happen, since the errors of joining members are out of reach. -/
theorem readGraph_exact {document : Json} (once : document.KeysOnce) :
    ((∃ g, readGraph document = .ok g) ↔ IsDocument document) ∧
      (¬ IsDocument document → ∃ fault : Fault, readGraph document = .error fault) ∧
      ∀ index nodes shapes, readShapes index nodes = .ok shapes → shapes ≠ [] →
        ∃ s, join shapes = .ok s ∧ ∀ members, s = .union members → unionOf members = .ok s := by
  refine ⟨exists_readGraph once, fun outside => ?_,
    fun _ _ _ read filled => join_of_read read filled⟩
  cases result : readGraph document with
  | ok g => exact absurd ((exists_readGraph once).mp ⟨g, result⟩) outside
  | error fault => exact ⟨fault, rfl⟩

theorem sampleDocument_keysOnce : sampleDocument.KeysOnce := by
  simp [sampleDocument, Entries.keys]

/-- The root refers to a class that is not there. -/
def danglingDocument : Json :=
  .object [("top_level", .object [("kind", .string "class"), ("ref", .string "Pet")])]

theorem sample_exact : IsDocument sampleDocument ∧ ¬ IsDocument danglingDocument := by
  have danglingOnce : danglingDocument.KeysOnce := by simp [danglingDocument, Entries.keys]
  have refused : readGraph danglingDocument = .error ⟨[], .danglingRef "Pet"⟩ := rfl
  refine ⟨(readGraph_exact sampleDocument_keysOnce).1.mp ⟨sampleGraph, readGraph_sample⟩,
    fun inside => ?_⟩
  obtain ⟨g, read⟩ := (readGraph_exact danglingOnce).1.mpr inside
  cases refused.symm.trans read

end Shapewright.Document
