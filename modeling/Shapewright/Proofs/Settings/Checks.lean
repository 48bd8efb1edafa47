import Shapewright.Proofs.Settings.Layers
import Shapewright.Proofs.Source.Words

/-!
# What the checks let through

The checks compare a text with its repaired form. What they accept is a grammar all the same: dotted
names as the namespace, and identifiers as forbidden names.
-/
namespace Shapewright.Settings
open Identifier Result

/-- One or more identifiers that are not reserved, with dots between them. -/
inductive DottedName : String → Prop
  | single {name : String} (usable : IsUsable name) : DottedName name
  | qualified {name rest : String} (usable : IsUsable name) (dotted : DottedName rest) :
    DottedName (name ++ "." ++ rest)

theorem segments_eq_splitOn (cs : List Char) : segments cs = cs.splitOn '.' := by
  induction cs with
  | nil => rfl
  | cons c cs ih =>
    rw [List.splitOn_cons_eq_if_modifyHead, ← ih, segments]
    by_cases dot : c = '.'
    · rw [if_pos dot, if_pos (beq_iff_eq.mpr dot)]
    · have filled : segments cs ≠ [] := ih ▸ List.splitOn_ne_nil '.' cs
      obtain ⟨s, ss, split⟩ := List.exists_cons_of_ne_nil filled
      rw [if_neg dot, if_neg (mt beq_iff_eq.mp dot), split, List.modifyHead_cons]

section Names
variable {name : String} (usable : IsUsable name)
include usable

theorem dot_not_mem : '.' ∉ name.toList := Source.not_mem_of_isBreak usable.1 (by decide)

theorem segments_name : segments name.toList = [name.toList] := by
  rw [segments_eq_splitOn, List.splitOn_eq_singleton (dot_not_mem usable)]

theorem segments_qualified (rest : String) :
    segments (name ++ "." ++ rest).toList = name.toList :: segments rest.toList := by
  have dot : ".".toList = ['.'] := rfl
  rw [segments_eq_splitOn, segments_eq_splitOn, String.toList_append, String.toList_append, dot,
    List.append_assoc, List.singleton_append,
    List.splitOn_append_cons_self_of_not_mem (dot_not_mem usable)]

end Names

theorem dottedName_of_segments {ss : List (List Char)} (filled : ss ≠ [])
    (usable : ∀ s ∈ ss, IsUsable (String.ofList s)) :
    DottedName (String.ofList (['.'].intercalate ss)) := by
  induction ss with
  | nil => exact absurd rfl filled
  | cons s ss ih =>
    obtain ⟨first, others⟩ := List.forall_mem_cons.mp usable
    cases ss with
    | nil => simpa using DottedName.single first
    | cons t ts =>
      have rest := ih (List.cons_ne_nil t ts) others
      have split : String.ofList (['.'].intercalate (s :: t :: ts)) =
          String.ofList s ++ "." ++ String.ofList (['.'].intercalate (t :: ts)) := by
        rw [List.intercalate_cons_cons, String.ofList_append, String.ofList_append]
      rw [split]
      exact .qualified first rest

/-- The names whose segments are all usable are the dotted ones. -/
theorem isDotted_iff {name : String} : IsDotted name ↔ DottedName name := by
  constructor
  · intro usable
    have filled : segments name.toList ≠ [] := segments_eq_splitOn _ ▸ List.splitOn_ne_nil '.' _
    have dotted := dottedName_of_segments filled usable
    rwa [segments_eq_splitOn, List.intercalate_splitOn, String.ofList_toList] at dotted
  · intro dotted
    induction dotted with
    | single usable =>
      intro segment inside
      rw [segments_name usable, List.mem_singleton] at inside
      rwa [inside, String.ofList_toList]
    | qualified usable dotted ih =>
      intro segment inside
      rw [segments_qualified usable] at inside
      rcases List.mem_cons.mp inside with rfl | inside
      · rwa [String.ofList_toList]
      · exact ih segment inside

/-- A namespace is taken as it is or refused by its name. -/
theorem checkNamespace_cases (name : String) :
    (DottedName name → checkNamespace name = .ok name) ∧
      (¬ DottedName name → checkNamespace name = .error (.badNamespace name)) := by
  refine ⟨fun dotted => checkNamespace_eq_ok.mpr ⟨isDotted_iff.mpr dotted, rfl⟩,
    fun notDotted => ?_⟩
  rw [checkNamespace]
  split
  · next all =>
    refine absurd (isDotted_iff.mp fun segment inside => ?_) notDotted
    exact isNamespaceSegment_iff.mp (List.all_eq_true.mp all segment inside)
  · rfl

/-- Forbidden names are taken, or one of them that is no identifier is reported. -/
theorem checkForbidden_cases (names : List String) :
    (∀ name ∈ names, IsValid name) ∧ Draft.checkForbidden names = .ok (Ordered.firstSeen names) ∨
      ∃ name ∈ names, ¬ IsValid name ∧
        Draft.checkForbidden names = .error (.badForbiddenName name) := by
  rw [Draft.checkForbidden]
  cases found : names.find? fun name => legalize name != name with
  | none => exact .inl ⟨isNone_find?_iff.mp found, rfl⟩
  | some name =>
    have changed := List.find?_some found
    rw [bne_iff_ne, ne_eq, legalize_eq_self] at changed
    exact .inr ⟨name, List.mem_of_find?_eq_some found, changed, rfl⟩

/-- The namespace and the indent of a draft pass their checks. -/
structure Passes (draft : Draft) : Prop where
  dotted : DottedName (draft.namespaceName.getD "QuickType")
  indented : 0 ≤ draft.indentWidth.getD 4

theorem passes_of_freeze {draft : Draft} {s : Settings} (frozen : draft.freeze = .ok s) :
    Passes draft := by
  obtain ⟨name, named, frozen⟩ := bind_eq_ok.mp frozen
  obtain ⟨width, indented, -⟩ := bind_eq_ok.mp frozen
  refine ⟨isDotted_iff.mp (checkNamespace_eq_ok.mp named).1, ?_⟩
  exact (Draft.checkIndent_eq_ok.mp indented).symm ▸ Int.natCast_nonneg width

/-- What passes is frozen alike under all lists of forbidden names that are taken. -/
theorem Passes.freeze {draft : Draft} (passes : Passes draft) :
    ∃ s : Settings, ∀ names, Draft.freeze { draft with forbiddenNames := names } =
      (Draft.checkForbidden names).map fun kept => { s with forbiddenNames := kept } := by
  obtain ⟨width, same⟩ := Int.eq_ofNat_of_zero_le passes.indented
  have named := (checkNamespace_cases _).1 passes.dotted
  have indented : Draft.checkIndent (draft.indentWidth.getD ({} : Settings).indentWidth) =
      .ok width :=
    Draft.checkIndent_eq_ok.mpr same
  refine ⟨⟨draft.namespaceName.getD "QuickType", draft.headerComment.getD true, width,
    draft.lineEnd.getD .lf, [],
    draft.sources⟩, fun names => ?_⟩
  rw [Draft.freeze, named, ok_bind, indented, ok_bind]
  cases Draft.checkForbidden names <;> rfl

theorem freeze_forbidden {draft : Draft} {s : Settings} (frozen : draft.freeze = .ok s) :
    (∀ name ∈ draft.forbiddenNames, IsValid name) ∧
      s.forbiddenNames = Ordered.firstSeen draft.forbiddenNames := by
  obtain ⟨name, -, frozen⟩ := bind_eq_ok.mp frozen
  obtain ⟨width, -, frozen⟩ := bind_eq_ok.mp frozen
  obtain ⟨kept, checked, frozen⟩ := bind_eq_ok.mp frozen
  cases frozen
  rcases checkForbidden_cases draft.forbiddenNames with ⟨valid, same⟩ | ⟨name, -, -, refused⟩
  · exact ⟨valid, Except.ok.inj (checked.symm.trans same)⟩
  · rw [refused] at checked
    cases checked

/-- Other forbidden names change nothing else. -/
theorem freeze_withNames {draft : Draft} {s : Settings} (frozen : draft.freeze = .ok s)
    {names : List String} (valid : ∀ name ∈ names, IsValid name) :
    Draft.freeze { draft with forbiddenNames := names } =
      .ok { s with forbiddenNames := Ordered.firstSeen names } := by
  obtain ⟨base, freezes⟩ := (passes_of_freeze frozen).freeze
  rcases checkForbidden_cases names with ⟨-, checked⟩ | ⟨name, inside, illegal, -⟩
  · obtain ⟨kept, -, rfl⟩ := map_eq_ok.mp ((freezes draft.forbiddenNames).symm.trans frozen)
    rw [freezes, checked]
    rfl
  · exact absurd (valid name inside) illegal

/-- Repairing a text gives an identifier and changes nothing but what is none. So the checks on top
of it take exactly dotted names and lists of identifiers, and report anything else. -/
theorem checks_exact :
    (∀ s, IsValid (legalize s) ∧ (legalize s = s ↔ IsValid s) ∧
      legalize (legalize s) = legalize s) ∧
      (∀ name, (DottedName name → checkNamespace name = .ok name) ∧
        (¬ DottedName name → checkNamespace name = .error (.badNamespace name))) ∧
      ∀ draft, Passes draft →
        ((∃ s, draft.freeze = .ok s) ↔ ∀ name ∈ draft.forbiddenNames, IsValid name) ∧
        ∀ e, draft.freeze = .error e →
          ∃ name ∈ draft.forbiddenNames, ¬ IsValid name ∧ e = .badForbiddenName name := by
  refine ⟨fun s => ?_, checkNamespace_cases, fun draft passes => ?_⟩
  · have valid := legalize_valid s
    exact ⟨valid, legalize_eq_self, legalize_eq_self.mpr valid⟩
  · obtain ⟨s, frozen⟩ := passes.freeze
    have frozen := frozen draft.forbiddenNames
    rcases checkForbidden_cases draft.forbiddenNames
      with ⟨legal, checked⟩ | ⟨name, inside, illegal, checked⟩
    · rw [frozen, checked]
      exact ⟨iff_of_true ⟨_, rfl⟩ legal, fun e failed => by cases failed⟩
    · rw [frozen, checked]
      refine ⟨iff_of_false (fun ⟨_, h⟩ => by cases h) fun legal => illegal (legal name inside),
        fun e failed => ?_⟩
      cases failed
      exact ⟨name, inside, illegal, rfl⟩

/-- A draft whose last forbidden name begins with a digit. -/
def digitDraft : Draft :=
  { namespaceName := some "Acme._2", indentWidth := some 0, forbiddenNames := ["Größe", "2x"] }

theorem sample_checks_exact :
    DottedName "Acme._2" ∧ checkNamespace "Acme._2" = .ok "Acme._2" ∧ ¬ DottedName "Acme.int" ∧
      checkNamespace "Acme.int" = .error (.badNamespace "Acme.int") ∧ Passes digitDraft ∧
      (∀ s, digitDraft.freeze ≠ .ok s) ∧ digitDraft.freeze = .error (.badForbiddenName "2x") := by
  have usable : IsUsable "Acme" := ⟨by decide, by decide⟩
  have version : IsUsable "_2" := ⟨by decide +kernel, by decide⟩
  have dotted : DottedName "Acme._2" := .qualified usable (.single version)
  have reserved : ¬ DottedName "Acme.int" := fun h => by
    have last := isDotted_iff.mpr h ['i', 'n', 't'] (by decide)
    exact absurd last.2 (by decide)
  have passes : Passes digitDraft := ⟨dotted, Int.le_refl 0⟩
  have digit : ¬ IsValid "2x" := by decide +kernel
  have letters : IsValid "Größe" := by decide +kernel
  obtain ⟨-, namespaces, drafts⟩ := checks_exact
  obtain ⟨frozen, reported⟩ := drafts digitDraft passes
  have refused : ∀ s, digitDraft.freeze ≠ .ok s := fun s taken =>
    digit (frozen.mp ⟨s, taken⟩ "2x" (List.mem_cons_of_mem _ List.mem_cons_self))
  refine ⟨dotted, (namespaces _).1 dotted, reserved, (namespaces _).2 reserved, passes, refused, ?_⟩
  cases failed : digitDraft.freeze with
  | ok s => exact absurd failed (refused s)
  | error e =>
    obtain ⟨name, inside, illegal, rfl⟩ := reported e failed
    simp only [digitDraft, List.mem_cons, List.not_mem_nil, or_false] at inside
    rcases inside with rfl | rfl
    · exact absurd letters illegal
    · rfl

end Shapewright.Settings
