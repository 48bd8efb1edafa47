import Shapewright.Proofs.Toml.Inline

/-!
# Tables as sections

A table of flat tables under bare keys is written section after section, each a header with a line
for every entry.
-/
namespace Shapewright.Toml

/-- A key that is written without quotes. -/
structure IsBare (key : String) : Prop where
  filled : key.toList ≠ []
  all : ∀ c ∈ key.toList, isBareChar c

/-- A table of plain values. -/
structure IsFlat (entries : Table) : Prop where
  bare : ∀ e ∈ entries, IsBare e.1
  nodup : (entries.map (·.1)).Nodup
  plain : ∀ e ∈ entries, isPlain e.2

/-- Flat tables under bare keys. -/
structure IsSectioned (sections : List (String × Table)) : Prop where
  bare : ∀ s ∈ sections, IsBare s.1
  nodup : (sections.map (·.1)).Nodup
  flat : ∀ s ∈ sections, IsFlat s.2

/-- Every value is read back as it is written. -/
def AllWritten (sections : List (String × Table)) : Prop :=
  ∀ s ∈ sections, ∀ e ∈ s.2, Written maxDepth (inlineText true e.2).toList e.2

/-- The sections as one table of tables. -/
def ofSections (sections : List (String × Table)) : Table := sections.map fun s => (s.1, .table s.2)

section Writing

def lineText (e : String × Value) : String := e.1 ++ " = " ++ inlineText true e.2 ++ "\n"

def sectionText (earlier : Bool) (s : String × Table) : String :=
  setOff earlier ++ "[" ++ s.1 ++ "]\n" ++ String.join (s.2.map lineText)

def documentText (earlier : Bool) : List (String × Table) → String
  | [] => ""
  | s :: sections => sectionText earlier s ++ documentText true sections

theorem IsBare.keyText {key : String} (h : IsBare key) : keyText key = key := by
  have filled : key.isEmpty = false := by
    rw [← Bool.not_eq_true, String.isEmpty_iff]
    rintro rfl
    exact h.filled rfl
  have all : key.toList.all isBareChar := List.all_eq_true.mpr h.all
  rw [Toml.keyText, filled, all]
  rfl

theorem arrange_of_isPlain {v : Value} (h : isPlain v) : arrange v = v := by
  cases v with
  | table entries => cases h
  | array items =>
    have plain : isTableArray (.array items) = false := by simpa [isPlain, Value.isTable] using h
    rw [arrange, plain]
    rfl
  | _ => rfl

theorem entryPart_of_isPlain {key : String} (bare : IsBare key) {v : Value} (h : isPlain v)
    (path : List String) (earlier later : Bool) :
    entryPart path earlier later key v = ⟨true, lineText (key, v)⟩ := by
  cases v with
  | table entries => cases h
  | array items =>
    have plain : isTableArray (.array items) = false := by simpa [isPlain, Value.isTable] using h
    rw [entryPart, plain, bare.keyText]
    rfl
  | _ =>
    rw [entryPart, bare.keyText]
    · rfl
    all_goals exact nofun

theorem arrangeEntries_flat {entries : Table} (flat : ∀ e ∈ entries, isPlain e.2) :
    arrangeEntries entries = entries := by
  induction entries with
  | nil => rfl
  | cons e es ih =>
    rw [arrangeEntries, arrange_of_isPlain (flat e List.mem_cons_self),
      ih fun f inside => flat f (List.mem_cons_of_mem _ inside)]

theorem partsOf_flat {entries : Table} (bare : ∀ e ∈ entries, IsBare e.1)
    (plain : ∀ e ∈ entries, isPlain e.2) (path : List String) (earlier : Bool) :
    partsOf path earlier entries = entries.map fun e => ⟨true, lineText e⟩ := by
  induction entries generalizing earlier with
  | nil => rfl
  | cons e es ih =>
    rw [partsOf, entryPart_of_isPlain (bare e List.mem_cons_self) (plain e List.mem_cons_self),
      List.map_cons,
      ih (fun f inside => bare f (List.mem_cons_of_mem _ inside)) fun f inside =>
        plain f (List.mem_cons_of_mem _ inside)]

/-- Where every part is plain, nothing is moved. -/
theorem joinParts_lines (entries : Table) :
    joinParts (entries.map fun e => ⟨true, lineText e⟩) = String.join (entries.map lineText) := by
  have all : (entries.map fun e => Part.mk true (lineText e)).filter (·.plain) =
      entries.map fun e => ⟨true, lineText e⟩ :=
    List.filter_eq_self.mpr (List.forall_mem_map.mpr fun _ _ => rfl)
  have none : (entries.map fun e => Part.mk true (lineText e)).filter (!·.plain) = [] :=
    List.filter_eq_nil_iff.mpr (List.forall_mem_map.mpr fun _ _ => Bool.false_ne_true)
  simp [joinParts, all, none, Function.comp_def]

theorem joinParts_cons (text : String) (parts : List Part) (tables : ∀ p ∈ parts, p.plain = false) :
    joinParts (⟨false, text⟩ :: parts) = text ++ joinParts parts := by
  have noPlain : parts.filter (·.plain) = [] := List.filter_eq_nil_iff.mpr fun p inside => by
    simp [tables p inside]
  simp [joinParts, noPlain]

theorem isHeaderless_flat {entries : Table} (plain : ∀ e ∈ entries, isPlain e.2) :
    isHeaderless entries = false := by
  cases entries with
  | nil => rfl
  | cons e es => simp [isHeaderless, plain e List.mem_cons_self]

theorem entryPart_section {s : String × Table} (bare : IsBare s.1) (flat : IsFlat s.2)
    (earlier : Bool) :
    entryPart [] earlier false s.1 (.table s.2) = ⟨false, sectionText earlier s⟩ := by
  simp only [entryPart, isHeaderless_flat flat.plain, partsOf_flat flat.bare flat.plain,
    joinParts_lines]
  simp [sectionText, header, pathText, bare.keyText, String.append_assoc]

theorem partsOf_sections {sections : List (String × Table)}
    (h : ∀ s ∈ sections, IsBare s.1 ∧ IsFlat s.2) (earlier : Bool) :
    (∀ p ∈ partsOf [] earlier (ofSections sections), p.plain = false) ∧
      joinParts (partsOf [] earlier (ofSections sections)) = documentText earlier sections := by
  induction sections generalizing earlier with
  | nil => exact ⟨nofun, rfl⟩
  | cons s sections ih =>
    obtain ⟨bare, flat⟩ := h s List.mem_cons_self
    obtain ⟨tables, joined⟩ := ih (fun t inside => h t (List.mem_cons_of_mem _ inside)) true
    have noPlain : (ofSections sections).any (isPlain ·.2) = false := by
      simp [ofSections, isPlain, Value.isTable]
    have parts : partsOf [] earlier (ofSections (s :: sections)) =
        ⟨false, sectionText earlier s⟩ :: partsOf [] true (ofSections sections) := by
      rw [ofSections, List.map_cons, partsOf, ← ofSections, noPlain, entryPart_section bare flat]
    rw [parts]
    refine ⟨List.forall_mem_cons.mpr ⟨rfl, tables⟩, ?_⟩
    rw [joinParts_cons _ _ tables, joined, documentText]

theorem arrangeEntries_sections {sections : List (String × Table)}
    (flat : ∀ s ∈ sections, IsFlat s.2) :
    arrangeEntries (ofSections sections) = ofSections sections := by
  induction sections with
  | nil => rfl
  | cons s sections ih =>
    have rest := ih fun t inside => flat t (List.mem_cons_of_mem _ inside)
    have first := arrangeEntries_flat (flat s List.mem_cons_self).plain
    simp only [ofSections, List.map_cons, arrangeEntries, arrange, first] at rest ⊢
    rw [rest]

theorem render_ofSections {sections : List (String × Table)} (h : IsSectioned sections) :
    render (ofSections sections) = documentText false sections := by
  rw [render, arrangeEntries_sections h.flat]
  exact (partsOf_sections (fun s inside => ⟨h.bare s inside, h.flat s inside⟩) false).2

end Writing

end Shapewright.Toml
