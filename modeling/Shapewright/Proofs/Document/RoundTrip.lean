import Shapewright.Document.Printer
import Shapewright.Proofs.Document.Exact

/-!
# Writing and reading again

The form that the writer gives to a shape describes exactly this shape, so what was read once is
read again unchanged: the properties are in order already, the names are not empty, and every class
stands once.
-/
namespace Shapewright.Document
open Result Shape

/-- The shapes that a node can describe. -/
structure Writable (s : Shape) : Prop where
  canonical : s.Canonical
  filled : ∀ ref : Text, .record ref ∈ s.walk → ref ≠ ""

theorem Describes.filled {node : Json} {s : Shape} (h : Describes node s) {ref : Text}
    (inside : .record ref ∈ s.walk) : ref ≠ "" := by
  induction h with
  | word primitive => exact absurd inside primitive.no_record
  | primitive _ primitive => exact absurd inside primitive.no_record
  | array _ _ _ ih => exact ih (by simpa [mem_walk_array] using inside)
  | map _ _ _ ih => exact ih (by simpa [mem_walk_map] using inside)
  | record _ _ filled =>
    have same : Shape.record ref = .record _ := List.mem_singleton.mp inside
    cases same
    exact filled
  | union _ _ lengths _ union ih =>
    obtain ⟨s, hs, inside⟩ := union.record_mem_walk.mp inside
    obtain ⟨node, hp⟩ := exists_partner_left lengths hs
    exact ih (node, s) hp inside

theorem Describes.writable {node : Json} {s : Shape} (h : Describes node s) : Writable s :=
  ⟨readShape_canonical (readShape_eq_ok.mpr h), fun _ => h.filled⟩

theorem ofShapes_eq (members : List Shape) : ofShapes members = members.map ofShape := by
  induction members with
  | nil => rfl
  | cons m ms ih => rw [ofShapes, ih, List.map_cons]

theorem isUnion_self {members : List Shape} (h : (Shape.union members).Canonical) :
    IsUnion members members := by
  obtain ⟨several, ordered, flat, -⟩ := h
  refine ⟨several, ordered, fun m => ?_⟩
  have alone : ∀ s ∈ members, alternatives s = [s] := by
    intro s hs
    have notUnion := List.all_eq_true.mp flat s hs
    cases s with
    | union _ => simp [isUnion] at notUnion
    | _ => rfl
  constructor
  · intro hm
    exact ⟨m, hm, by simp [alone m hm]⟩
  · rintro ⟨s, hs, offered⟩
    rw [alone s hs, List.mem_singleton] at offered
    exact offered ▸ hs

theorem describes_ofShape {s : Shape} (h : Writable s) : Describes (ofShape s) s := by
  obtain ⟨canonical, filled⟩ := h
  induction s with
  | nothing => exact .primitive rfl .nothing
  | null => exact .primitive rfl .null
  | boolean => exact .primitive rfl .boolean
  | integer => exact .primitive rfl .integer
  | double => exact .primitive rfl .double
  | string => exact .primitive rfl .string
  | array items ih =>
    have inner := ih canonical fun ref inside => filled ref (mem_walk_array.mpr (.inr inside))
    exact .array rfl rfl inner
  | map values ih =>
    have inner := ih canonical fun ref inside => filled ref (mem_walk_map.mpr (.inr inside))
    exact .map rfl rfl inner
  | record ref => exact .record rfl rfl (filled ref (mem_walk_self _))
  | union members ih =>
    have each : ∀ m ∈ members, Describes (ofShape m) m := by
      intro m hm
      refine ih m hm (allCanonical_iff.mp canonical.2.2.2 m hm) fun ref inside => ?_
      exact filled ref (mem_walk_union.mpr (.inr ⟨m, hm, inside⟩))
    have lengths : (ofShapes members).length = members.length := by simp [ofShapes_eq]
    refine .union rfl rfl lengths (fun p hp => ?_) (isUnion_self canonical)
    have pairs : (ofShapes members).zip members = members.map fun m => (ofShape m, m) := by
      rw [ofShapes_eq]
      simpa using List.zip_map' (f := ofShape) (g := id) (l := members)
    obtain ⟨m, hm, rfl⟩ := List.mem_map.mp (pairs ▸ hp)
    exact each m hm

theorem readShape_ofShape {s : Shape} (h : Writable s) : readShape (ofShape s) = .ok s :=
  readShape_eq_ok.mpr (describes_ofShape h)

/-- Entries whose nodes give them back are read as they are. -/
theorem readEach_map {α β : Type} {read : Text → Json → Except Fault β} {key : α → Text}
    {write : α → Json} {value : α → β} {as : List α}
    (h : ∀ a ∈ as, read (key a) (write a) = .ok (value a)) :
    readEach read (as.map fun a => (key a, write a)) = .ok (as.map fun a => (key a, value a)) := by
  induction as with
  | nil => rfl
  | cons a as ih =>
    obtain ⟨first, rest⟩ := List.forall_mem_cons.mp h
    exact readEach_cons.mpr ⟨_, _, first, ih rest, rfl⟩

/-- What every class that was read satisfies. -/
structure ClassRead (c : RecordClass) : Prop where
  named : c.names ≠ []
  sorted : c.properties.Pairwise fun a b => a.1.le b.1
  writable : ∀ p ∈ c.properties, Writable p.2

theorem readNames_ne_nil {ref : Text} {fields : Fields} {names : List Text}
    (h : readNames ref fields = .ok names) : names ≠ [] := by
  unfold readNames at h
  dsimp only at h
  split at h
  · cases h
    simp
  · next notEmpty _ =>
    cases h
    exact notEmpty
  · cases h

theorem readNames_list {ref : Text} {fields : Fields} {names : List Text}
    (found : nodeUnder? "names" fields = some (.array (names.map .string))) (named : names ≠ []) :
    readNames ref fields = .ok names := by
  have texts : readTexts (names.map .string) = some names := readTexts_eq_some.mpr rfl
  cases names with
  | nil => exact absurd rfl named
  | cons name names => simp only [readNames, found, texts]

theorem readClass_classRead {ref : Text} {node : Json} {c : RecordClass}
    (h : readClass ref node = .ok c) :
    ClassRead c := by
  obtain ⟨fields, names, properties, shapes, -, named, -, read, rfl⟩ := readClass_eq_ok.mp h
  refine ⟨readNames_ne_nil named, RecordClass.new_sorted ref names shapes, fun p hp => ?_⟩
  obtain ⟨field, -, -, readIt⟩ := (mem_readEach read).mp (Ordered.mem_sort.mp hp)
  exact (readShape_eq_ok.mp readIt).writable

theorem readClass_ofClass {c : RecordClass} (h : ClassRead c) :
    readClass c.ref (ofClass c) = .ok c := by
  refine readClass_eq_ok.mpr ⟨_, c.names, _, c.properties, rfl, readNames_list rfl h.named,
    .inr rfl, ?_, ?_⟩
  · have each : readEach (fun _ => readShape) (c.properties.map fun p => (p.1, ofShape p.2)) =
        .ok (c.properties.map fun p => (p.1, p.2)) :=
      readEach_map fun p hp => readShape_ofShape (h.writable p hp)
    simpa using each
  · rw [RecordClass.new, Ordered.sort_eq_self h.sorted]

/-- What every graph that was read satisfies, beside being well formed. -/
structure GraphRead (g : Graph) : Prop where
  wellFormed : g.WellFormed
  topLevel : Writable g.topLevel
  classes : ∀ c ∈ g.classes, ClassRead c

theorem readGraph_graphRead {document : Json} {g : Graph} (h : readGraph document = .ok g) :
    GraphRead g := by
  have wellFormed := readGraph_wellFormed h
  obtain ⟨_, root, _, classes, topLevel, -, -, -, readClasses, readTop, rfl, -⟩ :=
    readGraph_eq_ok.mp h
  refine ⟨wellFormed, (readShape_eq_ok.mp readTop).writable, fun c hc => ?_⟩
  obtain ⟨e, he, rfl⟩ := List.mem_map.mp (Graph.mem_new_classes hc)
  obtain ⟨field, -, -, read⟩ := (mem_readEach readClasses).mp he
  exact readClass_classRead read

theorem readGraph_of_graphRead {g : Graph} (h : GraphRead g) : readGraph (ofGraph g) = .ok g := by
  have readClasses : readEach readClass (g.classes.map fun c => (c.ref, ofClass c)) =
      .ok (g.classes.map fun c => (c.ref, c)) :=
    readEach_map fun c hc => readClass_ofClass (h.classes c hc)
  have same : Graph.new ((g.classes.map fun c => (c.ref, c)).map (·.2)) g.topLevel = g := by
    rw [List.map_map, Function.comp_def, List.map_id', Graph.new_eq h.wellFormed.refs_nodup]
  exact readGraph_eq_ok.mpr ⟨_, _, _, _, _, rfl, rfl, .inr rfl, readClasses,
    readShape_ofShape h.topLevel, same, h.wellFormed.resolved⟩

/-- Writing a graph that was read, and reading it again, changes nothing; neither does writing a
shape whose unions are canonical and whose references are filled. -/
theorem readGraph_ofGraph :
    (∀ {document g}, readGraph document = .ok g → readGraph (ofGraph g) = .ok g) ∧
      ∀ {s : Shape}, s.Canonical → (∀ ref : Text, .record ref ∈ s.walk → ref ≠ "") →
        readShape (ofShape s) = .ok s := by
  refine ⟨fun read => ?_, fun canonical filled => ?_⟩
  · exact readGraph_of_graphRead (readGraph_graphRead read)
  · exact readShape_ofShape ⟨canonical, filled⟩

theorem sample_written_and_read : readGraph (ofGraph sampleGraph) = .ok sampleGraph ∧
    readShape (ofShape (.array sampleUnion)) = .ok (.array sampleUnion) := by
  refine ⟨readGraph_ofGraph.1 readGraph_sample, readGraph_ofGraph.2 ?_ ?_⟩
  · have wellFormed := readGraph_wellFormed readGraph_sample
    have inside : sampleUnion ∈ sampleGraph.shapes := by decide
    exact wellFormed.canonical sampleUnion inside
  · intro ref inside
    simp [sampleUnion, walk, walkAll] at inside

end Shapewright.Document
