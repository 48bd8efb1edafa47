import Shapewright.Proofs.Document.Notation
import Shapewright.Proofs.Plan.Plain
import Shapewright.Proofs.Source.Render

/-!
# The source and the notation of its document

What is written for a graph reads of a class nothing but its reference, its best name and its
properties, so two notations of a document give the same source.
-/
namespace Shapewright.Source
open Layout Plan Result

section Declarations
variable (p : Plan)

theorem entryOps_plain : entryOps p.plain = entryOps p := by
  simp only [entryOps, Plan.typeText_plain, Plan.plain_unions]
  rfl

theorem unionNames_plain (us : List Shape) : unionNames p.plain us = unionNames p us := by
  induction us with
  | nil => rfl
  | cons u us ih => rw [unionNames, unionNames, ih, unionName_plain]

theorem converterParts_plain : converterParts p.plain = converterParts p := by
  rw [converterParts, converterParts, converterOps, converterOps, Plan.plain_unions,
    unionNames_plain]

theorem propertyOps_plain (ref : Text) (es : Entries Text Shape) :
    propertyOps p.plain ref es = propertyOps p ref es := by
  induction es with
  | nil => rfl
  | cons e es ih => simp only [propertyOps, ih, typeText_plain, propertyName_plain]

theorem recordOps_plain (c : RecordClass) : recordOps p.plain c.plain = recordOps p c := by
  rw [recordOps, recordOps, RecordClass.plain_ref, className_plain, RecordClass.plain_properties,
    propertyOps_plain]

theorem recordsOps_plain (cs : List RecordClass) :
    each (recordOps p.plain) (cs.map (·.plain)) = each (recordOps p) cs := by
  induction cs with
  | nil => rfl
  | cons c cs ih => rw [List.map_cons, each, each, recordOps_plain, ih]

theorem fieldOps_plain (u : Shape) (ms : List Shape) : fieldOps p.plain u ms = fieldOps p u ms := by
  induction ms with
  | nil => rfl
  | cons m ms ih => rw [fieldOps, fieldOps, ih, nullableText_plain, fieldName_plain]

theorem clearOps_plain (u : Shape) (ms : List Shape) : clearOps p.plain u ms = clearOps p u ms := by
  induction ms with
  | nil => rfl
  | cons m ms ih => rw [clearOps, clearOps, ih, fieldName_plain]

theorem armOps_plain (u : Shape) (member : Option Shape) :
    armOps p.plain u member = armOps p u member := by
  cases member with
  | none => rfl
  | some m => rw [armOps, armOps, fieldName_plain, typeText_plain]

theorem switchOps_plain (u : Shape) (cases : List Dispatch.Case) :
    switchOps p.plain u cases = switchOps p u cases := by
  induction cases with
  | nil => rfl
  | cons c cases ih => rw [switchOps, switchOps, ih, armOps_plain]

theorem unionOps_plain : unionOps p.plain = unionOps p := by
  funext u
  simp only [unionOps, unionName_plain, fieldOps_plain, clearOps_plain, switchOps_plain]

theorem declarations_plain : declarations p.plain = declarations p := by
  have classes : p.plain.graph.classes = p.graph.classes.map (·.plain) := rfl
  rw [declarations, declarations, entryOps_plain, converterParts_plain, Plan.plain_unions, classes,
    recordsOps_plain, unionOps_plain]

end Declarations

/-- Of the names of its classes the source shows the best ones only. -/
theorem render_plain (g : Graph) (s : Settings) : render g.plain s = render g s := by
  simp only [render, ops, planFor, ofGraph_plain, bind_assoc, ok_bind, declarations_plain]

/-- Two accepted documents that differ in notation only are rendered as the same text, whatever
the settings. Nothing is asked of the keys of alternatives, because `Shape.precedes` breaks a tie
between equal keys by their codes. That tie-break belongs to this library: where ties are left to
the order in which a set happens to list its members, the text is settled only if the
alternatives have different keys. -/
theorem render_notation {d e : Json} (same : Document.SameDocument d e) (once : d.KeysOnce)
    (onceOther : e.KeysOnce) {g h : Graph} (accepted : Document.readGraph d = .ok g)
    (acceptedOther : Document.readGraph e = .ok h) (s : Settings) :
    ∃ text, render g s = .ok text ∧ render h s = .ok text := by
  have plain : g.plain = h.plain := same.plain_eq once onceOther accepted acceptedOther
  have wf := Document.readGraph_wellFormed accepted
  obtain ⟨p, planned, settled⟩ := planFor_settled wf s
  have rendered := render_lines planned (settled.complete wf)
  refine ⟨_, rendered, ?_⟩
  rw [← render_plain h, ← plain, render_plain g]
  exact rendered

def petProperties : Document.Fields := [
  ("age", .string "integer"),
  ("id", .object [
    ("kind", .string "union"),
    ("members", .array [.string "string", .string "null", .string "integer"])])]

/-- The same properties from the last to the first, with a union inside the union,
and an object for a word. -/
def petPropertiesAgain : Document.Fields := [
  ("id", .object [
    ("members", .array [
      .object [("kind", .string "union"), ("members", .array [.string "integer", .string "null"])],
      .string "string", .string "string"]),
    ("kind", .string "union")]),
  ("age", .object [("note", .null), ("kind", .string "integer")])]

def petClass : Document.Fields := [
  ("names", .array [.string "Pet", .string "Animal", .string "Pet"]),
  ("properties", .object petProperties)]

def petClassAgain : Document.Fields := [
  ("properties", .object petPropertiesAgain), ("names", .array [.string "Animal", .string "Pet"])]

def petDocument : Json := .object [
  ("classes", .object [("Pet", .object petClass), ("Owner", .object [("names", .string "Owner")])]),
  ("top_level", .object [("kind", .string "class"), ("ref", .string "Pet")])]

def petDocumentAgain : Json := .object [
  ("version", .integer 2),
  ("top_level", .object [("ref", .string "Pet"), ("kind", .string "class")]),
  ("classes", .object [("Pet", .object petClassAgain), ("Owner", .object [])])]

def petGraph (names : List Text) : Graph :=
  ⟨[⟨"Pet", names, [("age", .integer), ("id", Document.sampleUnion)]⟩, ⟨"Owner", ["Owner"], []⟩],
    .record "Pet"⟩

theorem petDocument_read :
    Document.readGraph petDocument = .ok (petGraph ["Pet", "Animal", "Pet"]) := rfl

theorem petDocumentAgain_read :
    Document.readGraph petDocumentAgain = .ok (petGraph ["Animal", "Pet"]) := rfl

theorem sameNode_of_read {a b : Json} {s : Shape} (ha : Document.readShape a = .ok s)
    (hb : Document.readShape b = .ok s) : Document.SameNode a b :=
  Document.sameNode_of_describes (Document.readShape_eq_ok.mp ha) (Document.readShape_eq_ok.mp hb)

theorem petProperties_same : Document.SameProperties petProperties petPropertiesAgain := by
  have age :=
    sameNode_of_read (a := petProperties[0].2) (b := petPropertiesAgain[1].2) (s := .integer) rfl
      rfl
  have id :=
    sameNode_of_read (a := petProperties[1].2) (b := petPropertiesAgain[0].2)
      (s := Document.sampleUnion)
    rfl rfl
  refine ⟨.swap _ _ _, ?_⟩
  simpa [petProperties, petPropertiesAgain] using And.intro age id

theorem petClass_same : Document.SameClass "Pet" (.object petClass) (.object petClassAgain) := by
  have named : Document.Named "Pet" petClass ["Pet", "Animal", "Pet"] := .list rfl (by simp)
  have namedAgain : Document.Named "Pet" petClassAgain ["Animal", "Pet"] := .list rfl (by simp)
  exact .intro named namedAgain (by simp) (.inr rfl) (.inr rfl) petProperties_same

theorem petDocument_same : Document.SameDocument petDocument petDocumentAgain := by
  have owner : Document.SameClass "Owner" (.object [("names", .string "Owner")]) (.object []) :=
    .intro (.single rfl) (.absent rfl) (by simp) (.inl ⟨rfl, rfl⟩) (.inl ⟨rfl, rfl⟩) ⟨.nil, by simp⟩
  exact .intro (.inr rfl) (.inr rfl) (.cons ⟨rfl, petClass_same⟩ (.cons ⟨rfl, owner⟩ .nil)) rfl rfl
    (.record rfl rfl rfl rfl)

theorem sample_notation :
    Document.SameDocument petDocument petDocumentAgain ∧ petDocument.KeysOnce ∧
      petDocumentAgain.KeysOnce ∧
      ∃ text, render (petGraph ["Pet", "Animal", "Pet"]) {} = .ok text ∧
        render (petGraph ["Animal", "Pet"]) {} = .ok text := by
  have once : petDocument.KeysOnce := by simp [petDocument, petClass, petProperties, Entries.keys]
  have onceAgain : petDocumentAgain.KeysOnce := by
    simp [petDocumentAgain, petClassAgain, petPropertiesAgain, Entries.keys]
  refine ⟨petDocument_same, once, onceAgain, ?_⟩
  exact render_notation petDocument_same once onceAgain petDocument_read petDocumentAgain_read {}

end Shapewright.Source
