import Shapewright.Proofs.Toml.Nodes
import Shapewright.Proofs.Toml.Statements

/-!
# Reading back documents

A document of tables under bare keys, with values that are read back as they are written, is read as
the tables it was written from.
-/
namespace Shapewright.Toml
open Result

section Tables

/-- The nodes of a flat table. -/
def nodesOf (entries : Table) : Nodes := entries.map fun e => (e.1, .value e.2)

theorem keys_nodesOf (entries : Table) : (nodesOf entries).map (·.1) = entries.map (·.1) := by
  simp [nodesOf]

theorem takeAssigns_assigns (fuel : Nat) (entries : Table) (es : Nodes)
    (nodup : (es.map (·.1) ++ entries.map (·.1)).Nodup) (rest : List Statement) :
    takeAssigns (fuel + 2) es (assigns entries ++ rest) =
      takeAssigns (fuel + 2) (es ++ nodesOf entries) rest := by
  induction entries generalizing es with
  | nil => simp [assigns, nodesOf]
  | cons e entries ih =>
    have fresh : e.1 ∉ es.map (·.1) := fun inside =>
      (List.nodup_append.mp nodup).2.2 e.1 inside e.1 List.mem_cons_self rfl
    have added : assignHere (fuel + 2) es e.2 [e.1] = .ok (es ++ [(e.1, .value e.2)]) :=
      Nodes.put_fresh false fuel fresh _
    have others := ih (es ++ [(e.1, .value e.2)]) (by simpa using nodup)
    rw [assigns, List.map_cons, List.cons_append, takeAssigns, added, ← assigns]
    rw [clashing, ok_bind, others, List.append_assoc]
    rfl

/-- What comes after a section: another one or nothing. -/
theorem statementsOf_cases (sections : List (String × Table)) :
    statementsOf sections = [] ∨
      ∃ name rest, statementsOf sections = .header false [name] none :: rest := by
  cases sections with
  | nil => exact .inl rfl
  | cons s sections => exact .inr ⟨s.1, _, rfl⟩

theorem readSection_flat (n fuel : Nat) {entries : Table} (nodup : (entries.map (·.1)).Nodup)
    (name : String) (sections : List (String × Table)) :
    readSection (n + 2) (fuel + 2) [name] (assigns entries ++ statementsOf sections) =
      .ok (nodesOf entries, statementsOf sections) := by
  have assigned : takeAssigns (n + 2) [] (assigns entries ++ statementsOf sections) =
      .ok (nodesOf entries, statementsOf sections) := by
    rw [takeAssigns_assigns n entries [] (by simpa using nodup), List.nil_append]
    rcases statementsOf_cases sections with none | ⟨next, rest, led⟩
    · rw [none]
      rfl
    · rw [led]
      rfl
  have below : readBelow (n + 2) (fuel + 1) [name] (nodesOf entries) (statementsOf sections) =
      .ok (nodesOf entries, statementsOf sections) := by
    rcases statementsOf_cases sections with none | ⟨next, rest, led⟩
    · rw [none]
      rfl
    · rw [led]
      rfl
  have agreed := Nodes.agreeAll_of_nodup (n + 1) (nodesOf entries) (keys_nodesOf entries ▸ nodup)
  rw [readSection, assigned, ok_bind]
  simp only [below, ok_bind, agreed]
  rfl

/-- The nodes of all sections. -/
def sectionNodes (sections : List (String × Table)) : Nodes :=
  sections.map fun s => (s.1, .table .header (nodesOf s.2))

theorem readNode_flat (n fuel : Nat) {entries : Table} (nodup : (entries.map (·.1)).Nodup)
    (name : String) (sections : List (String × Table)) :
    readNode (n + 2) (fuel + 3) [] ⟨false, [name], none⟩
        (assigns entries ++ statementsOf sections) =
      .ok (name, .table .header (nodesOf entries), statementsOf sections) := by
  rw [readNode, readSection_flat n fuel nodup, ok_bind]
  rfl

theorem readTop_sections (n : Nat) {sections : List (String × Table)} (es : Nodes)
    (nodup : (es.map (·.1) ++ sections.map (·.1)).Nodup)
    (flat : ∀ s ∈ sections, (s.2.map (·.1)).Nodup) (fuel : Nat)
    (enough : sections.length + 4 ≤ fuel) :
    readTop (n + 2) fuel es (statementsOf sections) = .ok (es ++ sectionNodes sections) := by
  induction sections generalizing es fuel with
  | nil =>
    obtain ⟨fuel, rfl⟩ := Nat.exists_eq_add_of_le' enough
    simp [statementsOf, sectionNodes, readTop]
  | cons s sections ih =>
    obtain ⟨fuel, rfl⟩ := Nat.exists_eq_add_of_le' enough
    have fresh : s.1 ∉ es.map (·.1) := fun inside =>
      (List.nodup_append.mp nodup).2.2 s.1 inside s.1 List.mem_cons_self rfl
    have read :=
      readNode_flat n (fuel + sections.length + 1) (flat s List.mem_cons_self) s.1 sections
    have added := Nodes.add_fresh true (n + 1) fresh (.table .header (nodesOf s.2))
    have others := ih (es ++ [(s.1, .table .header (nodesOf s.2))]) (by simpa using nodup)
      (fun t inside => flat t (List.mem_cons_of_mem _ inside)) (fuel + sections.length + 4)
        (by omega)
    have statements : statementsOf (s :: sections) =
        .header false [s.1] none :: (assigns s.2 ++ statementsOf sections) := rfl
    have left : fuel + ((s :: sections).length + 4) = fuel + sections.length + 4 + 1 := by
      rw [List.length_cons]
      omega
    rw [statements, left, readTop, read, ok_bind]
    simp only [added, atTop, ok_bind, others, List.append_assoc]
    rfl

theorem whole_nodesOf (fuel : Nat) {entries : Table} (nodup : (entries.map (·.1)).Nodup) :
    Nodes.whole (fuel + 2) (nodesOf entries) = .ok entries := by
  have values : ∀ e ∈ entries, Nodes.value (fuel + 1) [.value e.2] = .ok e.2 :=
    fun e _ => by rw [Nodes.value]
  exact (Nodes.whole_of_nodup nodup values).trans (congrArg Except.ok (List.map_id entries))

theorem whole_sectionNodes (fuel : Nat) {sections : List (String × Table)}
    (nodup : (sections.map (·.1)).Nodup) (flat : ∀ s ∈ sections, (s.2.map (·.1)).Nodup) :
    Nodes.whole (fuel + 4) (sectionNodes sections) = .ok (ofSections sections) :=
  Nodes.whole_of_nodup nodup fun s inside => by
    rw [Nodes.value, whole_nodesOf fuel (flat s inside)]
    rfl

theorem length_le_statementsOf (sections : List (String × Table)) :
    sections.length ≤ (statementsOf sections).length := by
  induction sections with
  | nil => exact Nat.le_refl _
  | cons s sections ih =>
    simp only [statementsOf, List.flatMap_cons, List.length_append, List.length_cons] at ih ⊢
    omega

/-- A document is read as the sections that its statements make. -/
theorem read_of_statements {sections : List (String × Table)} (h : IsSectioned sections)
    {text : String} (few : (statementsOf sections).length ≤ text.toList.length)
    (statements : readStatements (2 * text.toList.length + 2) text.toList = statementsOf sections) :
    read text = .ok (ofSections sections) := by
  have flat : ∀ s ∈ sections, (s.2.map (·.1)).Nodup := fun s inside => (h.flat s inside).nodup
  have fewer := length_le_statementsOf sections
  have top := readTop_sections (2 * text.toList.length) [] h.nodup flat
    (4 * (statementsOf sections).length + 4) (by omega)
  rw [List.nil_append] at top
  rw [read]
  simp only [statements, top, ok_bind]
  cases sections with
  | nil => rfl
  | cons s sections =>
    obtain ⟨n, large⟩ : ∃ n, 2 * text.toList.length + 2 = n + 4 :=
      Nat.exists_eq_add_of_le' (by simp only [List.length_cons] at fewer; omega)
    rw [large, whole_sectionNodes n h.nodup flat]
    rfl

/-- Flat tables are read back from the document in which they are written, and
comments above it are skipped. -/
theorem read_render {sections : List (String × Table)} (h : IsSectioned sections)
    (written : AllWritten sections) {notes : List String}
    (calm : ∀ note ∈ notes, IsCalm note.toList) :
    read (String.join (notes.map commentLine) ++ render (ofSections sections)) =
      .ok (ofSections sections) := by
  have short := length_statementsOf_le sections false
  rw [render_ofSections h]
  have comments := length_comments_le notes
  refine read_of_statements h ?_ ?_
  · rw [String.toList_append, List.length_append]
    omega
  · obtain ⟨fuel, enough, left⟩ : ∃ fuel, (statementsOf sections).length < fuel ∧
        2 * (String.join (notes.map commentLine) ++ documentText false sections).toList.length + 2 =
          notes.length + fuel := by
      rw [String.toList_append, List.length_append]
      exact ⟨_, by omega, (Nat.add_sub_of_le (by omega)).symm⟩
    rw [left, String.toList_append, readStatements_comments calm]
    exact readStatements_document (fun s inside => ⟨h.bare s inside, h.flat s inside⟩) written false
      fuel enough

end Tables

section Calm

/-- Nothing in the text but the ends of its lines is a control character. -/
def IsSteady (text : List Char) : Prop := ∀ c ∈ text, c = '\n' ∨ isControl c = false

theorem IsCalm.steady {text : List Char} (h : IsCalm text) : IsSteady text :=
  fun c inside => .inr (h c inside)

theorem IsSteady.append {a b : List Char} (ha : IsSteady a) (hb : IsSteady b) : IsSteady (a ++ b) :=
  List.forall_mem_append.mpr ⟨ha, hb⟩

theorem IsBare.calm {key : String} (bare : IsBare key) : IsCalm key.toList := by
  intro c inside
  have none : ∀ n < 128, isControl (Char.ofNat n) → isBareChar (Char.ofNat n) = false := by
    decide +kernel
  by_contra control
  rw [Bool.not_eq_false] at control
  have small : c.toNat < 128 := by
    simp only [isControl, Bool.or_eq_true, Bool.and_eq_true, decide_eq_true_eq] at control
    omega
  have other := none c.toNat small
  rw [Char.ofNat_toNat] at other
  exact absurd (bare.all c inside) (by simp [other control])

theorem IsSteady.of_all {text : List Char} (h : text.all fun c => c = '\n' || !isControl c) :
    IsSteady text :=
  fun c inside => by simpa using List.all_eq_true.mp h c inside

theorem IsSteady.join {texts : List String} (each : ∀ text ∈ texts, IsSteady text.toList) :
    IsSteady (String.join texts).toList := by
  rw [String.toList_join]
  intro c inside
  obtain ⟨text, member, inside⟩ := List.mem_flatMap.mp inside
  exact each text member c inside

theorem steady_comments {notes : List String} (calm : ∀ note ∈ notes, IsCalm note.toList) :
    IsSteady (String.join (notes.map commentLine)).toList := by
  refine .join (List.forall_mem_map.mpr fun note inside => ?_)
  simp only [commentLine, String.toList_append]
  exact (IsSteady.append (.of_all rfl) (calm note inside).steady).append (.of_all rfl)

theorem steady_sectionText {s : String × Table} (bare : IsBare s.1) (flat : IsFlat s.2)
    (calm : ∀ e ∈ s.2, IsCalm (inlineText true e.2).toList) (earlier : Bool) :
    IsSteady (sectionText earlier s).toList := by
  have lines : IsSteady (String.join (s.2.map lineText)).toList := by
    refine .join (List.forall_mem_map.mpr fun e inside => ?_)
    simp only [lineText, String.toList_append]
    have key := (flat.bare e inside).calm.steady
    exact ((key.append (.of_all rfl)).append (calm e inside).steady).append (.of_all rfl)
  simp only [sectionText, String.toList_append]
  refine (((IsSteady.append ?_ (.of_all rfl)).append bare.calm.steady).append (.of_all rfl)).append
    lines
  cases earlier <;> exact .of_all rfl

theorem steady_documentText {sections : List (String × Table)}
    (h : ∀ s ∈ sections, IsBare s.1 ∧ IsFlat s.2)
    (calm : ∀ s ∈ sections, ∀ e ∈ s.2, IsCalm (inlineText true e.2).toList) (earlier : Bool) :
    IsSteady (documentText earlier sections).toList := by
  induction sections generalizing earlier with
  | nil => exact fun c inside => absurd inside (by simp [documentText])
  | cons s sections ih =>
    obtain ⟨bare, flat⟩ := h s List.mem_cons_self
    rw [documentText, String.toList_append]
    refine (steady_sectionText bare flat (calm s List.mem_cons_self) earlier).append ?_
    exact ih (fun t inside => h t (List.mem_cons_of_mem _ inside))
      (fun t inside => calm t (List.mem_cons_of_mem _ inside))
      true

theorem steady_render {sections : List (String × Table)} (h : IsSectioned sections)
    (calm : ∀ s ∈ sections, ∀ e ∈ s.2, IsCalm (inlineText true e.2).toList) :
    IsSteady (render (ofSections sections)).toList := by
  rw [render_ofSections h]
  exact steady_documentText (fun s inside => ⟨h.bare s inside, h.flat s inside⟩) calm false

end Calm

end Shapewright.Toml
