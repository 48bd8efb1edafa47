import Shapewright.Proofs.Document.RoundTrip
import Shapewright.Proofs.Json.Paired

/-!
# Keys of a class

The properties of a class have the keys of an object of the document, so they inherit what is known
of all keys of the document: that no object has one twice, and that none of them writes a character
as two halves.
-/
namespace Shapewright.Document
open Result

/-- The properties of a class have the keys of an object in the document. -/
theorem exists_properties {document : Json} {g : Graph} (accepted : readGraph document = .ok g)
    {c : RecordClass} (hc : c ∈ g.classes) :
    ∃ fields classNodes node properties, document = .object fields ∧
      ObjectUnder "classes" fields classNodes ∧
      node ∈ classNodes ∧ HasProperties node.2 properties ∧
      c.properties.keys.Perm properties.keys := by
  obtain ⟨fields, _, classNodes, classes, _, rfl, -, under, readClasses, -, rfl, -⟩ :=
    readGraph_eq_ok.mp accepted
  obtain ⟨e, he, rfl⟩ := List.mem_map.mp (Graph.mem_new_classes hc)
  obtain ⟨node, given, -, readIt⟩ := (mem_readEach readClasses).mp he
  obtain ⟨inner, _, properties, shapes, object, -, propertiesUnder, readShapes, made⟩ :=
    readClass_eq_ok.mp readIt
  refine ⟨fields, classNodes, node, properties, rfl, under, given, ⟨inner, object, propertiesUnder⟩,
    ?_⟩
  rw [← made, ← readEach_keys readShapes]
  exact (Ordered.sort_perm _ shapes).map _

theorem class_keys_inherit {P : Json → Prop} (empty : P (.object []))
    (inner : ∀ {fields : Fields}, P (.object fields) → ∀ field ∈ fields, P field.2)
    {document : Json} {g : Graph} (accepted : readGraph document = .ok g) (whole : P document)
    {c : RecordClass} (hc : c ∈ g.classes) :
    ∃ properties : Fields, P (.object properties) ∧ c.properties.keys.Perm properties.keys := by
  obtain ⟨fields, classNodes, node, properties, rfl, classesUnder, given,
      ⟨classFields, object, under⟩, keys⟩ :=
    exists_properties accepted hc
  have classes := classesUnder.inherits empty (inner whole)
  have definition : P (.object classFields) := object ▸ inner classes node given
  exact ⟨properties, under.inherits empty (inner definition), keys⟩

theorem class_keys_nodup {document : Json} {g : Graph} (once : document.KeysOnce)
    (accepted : readGraph document = .ok g) {c : RecordClass} (hc : c ∈ g.classes) :
    c.properties.keys.Nodup := by
  have empty : (Json.object []).KeysOnce := by simp [Entries.keys]
  obtain ⟨properties, whole, keys⟩ :=
    class_keys_inherit empty (fun whole => (Json.keysOnce_object.mp whole).2) accepted once hc
  exact keys.nodup_iff.mpr (Json.keysOnce_object.mp whole).1

/-- The keys of a class come in the order of text, none of them twice. -/
theorem class_keys_increasing {document : Json} {g : Graph} (once : document.KeysOnce)
    (accepted : readGraph document = .ok g) {c : RecordClass} (hc : c ∈ g.classes) :
    c.properties.keys.Pairwise (· < ·) := by
  have sorted : c.properties.keys.Pairwise fun a b => a.le b :=
    List.pairwise_map.mpr ((readGraph_graphRead accepted).classes c hc).sorted
  have distinct : c.properties.keys.Pairwise (· ≠ ·) := class_keys_nodup once accepted hc
  exact sorted.imp₂ (fun _ _ => Text.lt_of_le_of_ne) distinct

/-- A set of keys has one list in this order. -/
theorem increasing_ext {keys others : List Text} (hk : keys.Pairwise (· < ·))
    (ho : others.Pairwise (· < ·)) (same : ∀ key, key ∈ keys ↔ key ∈ others) : keys = others := by
  have once {ks : List Text} (h : ks.Pairwise (· < ·)) : ks.Nodup := by
    refine List.Pairwise.imp ?_ h
    rintro a _ before rfl
    exact Text.lt_irrefl a before
  have perm : keys.Perm others := (List.perm_ext_iff_of_nodup (once hk) (once ho)).mpr same
  exact List.Perm.eq_of_pairwise (fun a b _ _ before after => absurd after (Text.lt_asymm before))
    hk ho perm

end Shapewright.Document
