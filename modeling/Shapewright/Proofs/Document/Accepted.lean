import Shapewright.Document.Reader
import Shapewright.Proofs.Result
import Shapewright.Proofs.Shape.Graph

/-!
# Accepted documents

A graph that comes from a document is well formed. Later results start from here and never look into
the reader again.
-/
namespace Shapewright.Document
open Result Shape

@[simp] theorem within_eq_ok {α : Type} {path : List Text} {r : Except Fault α} {a : α} :
    within path r = .ok a ↔ r = .ok a := by
  cases r <;> simp [within]

theorem primitive_canonical {kind : Text} {s : Shape} (h : primitives.lookup kind = some s) :
    s.Canonical := by
  obtain ⟨before, after, split, -⟩ := List.lookup_eq_some_iff.mp h
  have all : ∀ e ∈ primitives, e.2.Canonical := by simp [primitives, Canonical]
  exact all (kind, s) (split ▸ List.mem_append_right _ List.mem_cons_self)

theorem readKind_canonical {kind : Text} {s : Shape} (h : readKind kind = .ok s) :
    s.Canonical := by
  unfold readKind at h
  split at h
  · next shape found =>
    cases h
    exact primitive_canonical found
  · cases h

theorem readRef_canonical {fields : Fields} {s : Shape} (h : readRef fields = .ok s) :
    s.Canonical := by
  unfold readRef at h
  split at h
  · split at h
    · cases h
    · cases h
      exact trivial
  · cases h

theorem joined_canonical {members : List Shape} {s : Shape} (hm : ∀ m ∈ members, m.Canonical)
    (h : joined members = .ok s) : s.Canonical := by
  unfold joined at h
  split at h
  · cases h
  · next joint =>
    cases h
    exact join?_canonical hm joint
  · cases h

mutual
theorem readShape_canonical : ∀ {node : Json} {s : Shape}, readShape node = .ok s → s.Canonical
  | .string kind, s, h => readKind_canonical (by simpa [readShape] using h)
  | .object fields, s, h => by
    rw [readShape] at h
    split at h
    · next kind _ =>
      split at h
      · next shape found =>
        cases h
        exact primitive_canonical found
      · split at h
        · split at h
          · next items read =>
            obtain ⟨inner, hi, hs⟩ := bind_eq_ok.mp h
            cases hs
            have inside : inner.Canonical := readField_canonical (read.trans (congrArg some hi))
            exact inside
          · cases h
        · split at h
          · split at h
            · next values read =>
              obtain ⟨inner, hi, hs⟩ := bind_eq_ok.mp h
              cases hs
              have inside : inner.Canonical := readField_canonical (read.trans (congrArg some hi))
              exact inside
            · cases h
          · split at h
            · exact readRef_canonical h
            · split at h
              · split at h
                · next members read =>
                  obtain ⟨inner, hi, hs⟩ := bind_eq_ok.mp h
                  exact joined_canonical (readMembers_canonical (read.trans (congrArg some hi))) hs
                · cases h
              · cases h
    · cases h
  | .null, s, h | .boolean _, s, h | .integer _, s, h | .double _, s, h | .array _, s, h => by
    simp [readShape] at h

theorem readField_canonical {key : Text} :
    ∀ {fields : Fields} {s : Shape}, readField key fields = some (.ok s) → s.Canonical
  | [], s, h => by simp [readField] at h
  | (k, node) :: fields, s, h => by
    rw [readField] at h
    split at h
    · exact readShape_canonical (within_eq_ok.mp (Option.some.inj h))
    · exact readField_canonical h

theorem readMembers_canonical :
    ∀ {fields : Fields} {ms : List Shape}, readMembers fields = some (.ok ms) →
      ∀ m ∈ ms, m.Canonical
  | [], ms, h => by simp [readMembers] at h
  | (k, node) :: fields, ms, h => by
    by_cases same : k = "members"
    · cases node with
      | array nodes =>
        rw [readMembers, if_pos same] at h
        exact readShapes_canonical (Option.some.inj h)
      | _ => simp [readMembers, same] at h
    · have rest : readMembers fields = some (.ok ms) := by
        cases node <;> simpa [readMembers, same] using h
      exact readMembers_canonical rest

theorem readShapes_canonical {index : Nat} :
    ∀ {nodes : List Json} {ms : List Shape}, readShapes index nodes = .ok ms → ∀ m ∈ ms, m.Canonical
  | [], ms, h => by
    cases h
    simp
  | node :: nodes, ms, h => by
    rw [readShapes] at h
    obtain ⟨first, hf, h⟩ := bind_eq_ok.mp h
    obtain ⟨rest, hr, h⟩ := bind_eq_ok.mp h
    cases h
    refine List.forall_mem_cons.mpr ⟨?_, readShapes_canonical hr⟩
    exact readShape_canonical (within_eq_ok.mp hf)
end

section Each
variable {α : Type} {read : Text → Json → Except Fault α} {fields : Fields}

theorem readEach_cons {key : Text} {node : Json} {es : Entries Text α} :
    readEach read ((key, node) :: fields) = .ok es ↔
      ∃ a rest, read key node = .ok a ∧ readEach read fields = .ok rest ∧
        es = (key, a) :: rest := by
  simp only [readEach, bind_eq_ok, within_eq_ok, pure_eq, Except.ok.injEq]
  constructor
  · rintro ⟨a, first, rest, others, rfl⟩
    exact ⟨a, rest, first, others, rfl⟩
  · rintro ⟨a, rest, first, others, rfl⟩
    exact ⟨a, first, rest, others, rfl⟩

theorem exists_readEach :
    (∃ es, readEach read fields = .ok es) ↔
      ∀ field ∈ fields, ∃ a, read field.1 field.2 = .ok a := by
  induction fields with
  | nil => simp [readEach]
  | cons field fields ih =>
    obtain ⟨key, node⟩ := field
    rw [List.forall_mem_cons, ← ih]
    simp only [readEach_cons]
    constructor
    · rintro ⟨es, a, rest, first, others, -⟩
      exact ⟨⟨a, first⟩, rest, others⟩
    · rintro ⟨⟨a, first⟩, rest, others⟩
      exact ⟨_, a, rest, first, others, rfl⟩

theorem readEach_keys {es : Entries Text α} (h : readEach read fields = .ok es) :
    es.keys = fields.keys := by
  induction fields generalizing es with
  | nil =>
    cases h
    rfl
  | cons field fields ih =>
    obtain ⟨a, rest, -, others, rfl⟩ := readEach_cons.mp h
    exact congrArg (field.1 :: ·) (ih others)

/-- The entries that are read are those whose nodes give them. -/
theorem mem_readEach {es : Entries Text α} (h : readEach read fields = .ok es) {e : Text × α} :
    e ∈ es ↔ ∃ field ∈ fields, field.1 = e.1 ∧ read field.1 field.2 = .ok e.2 := by
  induction fields generalizing es with
  | nil =>
    cases h
    simp
  | cons field fields ih =>
    obtain ⟨a, rest, first, others, rfl⟩ := readEach_cons.mp h
    simp only [List.mem_cons, ih others, exists_eq_or_imp]
    refine or_congr_left ⟨?_, ?_⟩
    · rintro rfl
      exact ⟨rfl, first⟩
    · rintro ⟨same, read⟩
      have value : a = e.2 := Except.ok.inj (first.symm.trans read)
      exact Prod.ext same.symm value.symm

end Each

theorem readClass_canonical {ref : Text} {node : Json} {c : RecordClass}
    (h : readClass ref node = .ok c) : ∀ p ∈ c.properties, p.2.Canonical := by
  obtain ⟨fields, -, h⟩ := bind_eq_ok.mp h
  obtain ⟨names, -, h⟩ := bind_eq_ok.mp h
  obtain ⟨properties, -, h⟩ := bind_eq_ok.mp h
  obtain ⟨shapes, read, h⟩ := bind_eq_ok.mp h
  cases h
  intro p hp
  obtain ⟨inner, -, -, hi⟩ := (mem_readEach (within_eq_ok.mp read)).mp (Ordered.mem_sort.mp hp)
  exact readShape_canonical hi

theorem readGraph_wellFormed {document : Json} {g : Graph} (h : readGraph document = .ok g) :
    g.WellFormed := by
  obtain ⟨fields, -, h⟩ := bind_eq_ok.mp h
  split at h
  · next root found =>
    obtain ⟨classNodes, -, h⟩ := bind_eq_ok.mp h
    obtain ⟨classes, readClasses, h⟩ := bind_eq_ok.mp h
    obtain ⟨top, readTop, h⟩ := bind_eq_ok.mp h
    dsimp only at h
    split at h
    · next resolved =>
      cases h
      refine ⟨Graph.new_refs_nodup _ _, resolved, fun s hs => ?_⟩
      rcases Graph.mem_shapes.mp hs with hs | ⟨c, hc, p, hp, hs⟩
      · exact canonical_of_mem_walk (readShape_canonical (within_eq_ok.mp readTop)) hs
      · obtain ⟨e, he, rfl⟩ := List.mem_map.mp (Graph.mem_new_classes hc)
        obtain ⟨node, -, -, hn⟩ := (mem_readEach (within_eq_ok.mp readClasses)).mp he
        exact canonical_of_mem_walk (readClass_canonical hn p hp) hs
    · cases h
  · cases h

/-- A class with one property, which is a union that may also be null. -/
def sampleDocument : Json := .object [
  ("classes", .object [
    ("Pet", .object [
      ("properties", .object [
        ("id", .object [
          ("kind", .string "union"),
          ("members", .array [.string "string", .string "null", .string "integer"])])])])]),
  ("top_level", .object [("kind", .string "class"), ("ref", .string "Pet")])]

def sampleUnion : Shape := .union [.integer, .null, .string]

def sampleGraph : Graph := ⟨[⟨"Pet", ["Pet"], [("id", sampleUnion)]⟩], .record "Pet"⟩

theorem readGraph_sample : readGraph sampleDocument = .ok sampleGraph := rfl

end Shapewright.Document
