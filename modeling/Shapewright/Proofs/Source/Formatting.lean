import Shapewright.Proofs.Source.Legible

/-!
# Formatting

The settings of the layout decide how lines are put into text and nothing else: the lines of a
source are the same whatever is chosen for the indentation, the line end and the comment.
-/
namespace Shapewright

namespace Layout

/-- A line as it stands in a text: spaces for its level, its own text, and the line end.
An empty one has no spaces. -/
def Line.laid (width : Nat) (lineEnd : String) (l : Line) : String :=
  (if l.text.isEmpty then ""
    else String.ofList (List.replicate (width * l.level) ' ') ++ l.text) ++ lineEnd

def laidOut (width : Nat) (lineEnd : String) (ls : List Line) : String :=
  String.join (ls.map (·.laid width lineEnd))

/-- An empty line has no level. -/
def Line.IsTidy (l : Line) : Prop := l.text = "" → l.level = 0

theorem lineAt_tidy (level : Nat) (text : String) : (lineAt level text).IsTidy := by
  intro empty
  rw [text_lineAt] at empty
  rw [lineAt, if_pos (String.isEmpty_iff.mpr empty)]

theorem allLines_tidy {level : Nat} {ops : List Op} : ∀ l ∈ allLines level ops, l.IsTidy := by
  intro l hl
  obtain ⟨deeper, text, -, rfl⟩ := exists_lineAt ops l hl
  exact lineAt_tidy deeper text

theorem join_replicate (width level : Nat) :
    String.join (List.replicate level (String.ofList (List.replicate width ' '))) =
      String.ofList (List.replicate (width * level) ' ') := by
  rw [← String.toList_inj, String.toList_join, String.toList_ofList, List.flatMap_replicate,
    String.toList_ofList, List.flatten_replicate_replicate, Nat.mul_comm]

theorem Line.render_append {l : Line} (tidy : l.IsTidy) (width : Nat) (lineEnd : String) :
    l.render (String.ofList (List.replicate width ' ')) ++ lineEnd = l.laid width lineEnd := by
  rw [Line.render, Line.laid, join_replicate]
  split
  · next empty =>
    have blank := String.isEmpty_iff.mp empty
    rw [tidy blank, blank]
    rfl
  · rfl

/-- A line without a level is laid out as it is. -/
theorem laid_lineAt_zero (width : Nat) (lineEnd text : String) :
    (lineAt 0 text).laid width lineEnd = text ++ lineEnd := by
  rw [← Line.render_append (lineAt_tidy 0 text), Line.render, text_lineAt]
  unfold lineAt
  split <;> simp

/-- Tidy lines are laid out one by one, each with its own line end. -/
theorem renderLines_eq {ls : List Line} (filled : ls ≠ []) (tidy : ∀ l ∈ ls, l.IsTidy) (width : Nat)
    (lineEnd : String) :
    renderLines (String.ofList (List.replicate width ' ')) lineEnd ls =
      laidOut width lineEnd ls := by
  induction ls with
  | nil => exact absurd rfl filled
  | cons l ls ih =>
    obtain ⟨here, others⟩ := List.forall_mem_cons.mp tidy
    rw [laidOut, List.map_cons, String.join_cons, ← Line.render_append here]
    cases ls with
    | nil => simp [renderLines]
    | cons next ls =>
      have rest := ih (List.cons_ne_nil next ls) others
      rw [renderLines, List.map_cons] at rest
      rw [renderLines, List.map_cons, List.map_cons, String.intercalate_cons_cons,
        String.append_assoc, rest, laidOut]

end Layout

namespace Source
open Layout Plan

/-- The text with a carriage return before each line feed. -/
def withCrlf (text : String) : String :=
  String.ofList (text.toList.flatMap fun c => if c = '\n' then ['\r', '\n'] else [c])

theorem withCrlf_append (a b : String) : withCrlf (a ++ b) = withCrlf a ++ withCrlf b := by
  simp only [withCrlf, String.toList_append, List.flatMap_append, String.ofList_append]

theorem withCrlf_join (texts : List String) :
    withCrlf (String.join texts) = String.join (texts.map withCrlf) := by
  induction texts with
  | nil => rfl
  | cons text texts ih =>
    rw [String.join_cons, withCrlf_append, ih, List.map_cons, String.join_cons]

theorem withCrlf_of_oneLine {text : String} (h : OneLine text) : withCrlf text = text := by
  have kept : ∀ c ∈ text.toList, (if c = '\n' then ['\r', '\n'] else [c]) = [c] := by
    intro c hc
    refine if_neg ?_
    rintro rfl
    cases h '\n' hc
  rw [withCrlf, List.flatMap_congr kept, List.flatMap_singleton', String.ofList_toList]

theorem oneLine_spaces (n : Nat) : OneLine (String.ofList (List.replicate n ' ')) :=
  .fixed (List.all_eq_true.mpr fun c hc => by rw [List.eq_of_mem_replicate hc]; rfl)

theorem withCrlf_laid {l : Line} (h : OneLine l.text) (width : Nat) :
    withCrlf (l.laid width LineEnd.lf.text) = l.laid width LineEnd.crlf.text := by
  have front :
      OneLine (if l.text.isEmpty then ""
        else String.ofList (List.replicate (width * l.level) ' ') ++ l.text) := by
    split
    · exact .fixed rfl
    · exact (oneLine_spaces _).append h
  rw [Line.laid, Line.laid, withCrlf_append, withCrlf_of_oneLine front]
  rfl

theorem withCrlf_laidOut {ls : List Line} (h : ∀ l ∈ ls, OneLine l.text) (width : Nat) :
    withCrlf (laidOut width LineEnd.lf.text ls) = laidOut width LineEnd.crlf.text ls := by
  rw [laidOut, laidOut, withCrlf_join, List.map_map]
  exact congrArg String.join (List.map_congr_left fun l hl => withCrlf_laid (h l hl) width)

/-- The comment at the top, where it is wanted. -/
def headerText (s : Settings) : String :=
  if s.headerComment then String.join ((commentLines s.namespaceName).map (· ++ s.lineEnd.text))
  else ""

/-- The lines of a source without its comment. -/
def bodyLines (p : Plan) (ns : String) : List Line :=
  allLines 0 (namespaceOps ns (sourceParts p (conversionParts p)))

theorem sourceLines_eq (p : Plan) (s : Settings) :
    sourceLines p s = allLines 0 (headerOps s) ++ bodyLines p s.namespaceName :=
      allLines_append 0 _ _

theorem laidOut_header (s : Settings) (width : Nat) :
    laidOut width s.lineEnd.text (allLines 0 (headerOps s)) = headerText s := by
  unfold headerOps headerText
  split
  · have lines : allLines 0 [.lines (commentLines s.namespaceName)] =
        (commentLines s.namespaceName).map (lineAt 0) :=
      List.append_nil _
    rw [lines, laidOut, List.map_map]
    exact congrArg String.join
      (List.map_congr_left fun text _ => laid_lineAt_zero width s.lineEnd.text text)
  · rfl

section Plan
variable {p : Plan} {g : Graph} {s t : Settings}

theorem render_laidOut (planned : planFor g s = .ok p) (complete : Complete p) :
    render g s = .ok (laidOut s.indentWidth s.lineEnd.text (sourceLines p s)) := by
  have filled : sourceLines p s ≠ [] := by
    rw [sourceLines, sourceOps_lines]
    exact List.append_ne_nil_of_right_ne_nil _ (List.cons_ne_nil _ _)
  rw [render_lines planned complete, indentUnit, renderLines_eq filled allLines_tidy]

theorem laidOut_sourceLines (p : Plan) (s : Settings) (width : Nat) :
    laidOut width s.lineEnd.text (sourceLines p s) =
      headerText s ++ laidOut width s.lineEnd.text (bodyLines p s.namespaceName) := by
  rw [sourceLines_eq, laidOut, List.map_append, String.join_append, ← laidOut, ← laidOut,
    laidOut_header]

/-- A plan depends on the settings by the forbidden names alone. -/
theorem planFor_congr (same : t.forbiddenNames = s.forbiddenNames) (g : Graph) :
    planFor g t = planFor g s := by
  rw [planFor, planFor, Settings.effectiveNames, Settings.effectiveNames, Settings.extraNames,
    Settings.extraNames, same]

theorem legible_sourceLines (planned : Planned p) (dotted : Settings.IsDotted s.namespaceName) :
    ∀ l ∈ sourceLines p s, Legible l.text := by
  intro l hl
  refine allLegible_sourceTexts planned dotted l.text ?_
  rw [← sourceLines_texts]
  exact List.mem_map_of_mem hl

theorem oneLine_sourceLines (planned : Planned p) (dotted : Settings.IsDotted s.namespaceName) :
    ∀ l ∈ sourceLines p s, OneLine l.text :=
      fun l hl => (legible_sourceLines planned dotted l hl).oneLine

theorem oneLine_bodyLines (planned : Planned p) (dotted : Settings.IsDotted s.namespaceName) :
    ∀ l ∈ bodyLines p s.namespaceName, OneLine l.text := by
  intro l hl
  refine oneLine_sourceLines planned dotted l ?_
  rw [sourceLines_eq]
  exact List.mem_append_right _ hl

end Plan

/-- Laying lines out adds spaces and line ends alone. -/
theorem not_mem_laidOut {c : Char} {ls : List Line} (apart : ∀ l ∈ ls, c ∉ l.text.toList)
    (notSpace : c ≠ ' ') {lineEnd : String} (notEnd : c ∉ lineEnd.toList) (width : Nat) :
    c ∉ (laidOut width lineEnd ls).toList := by
  rw [laidOut, String.toList_join, List.mem_flatMap]
  rintro ⟨text, member, inside⟩
  obtain ⟨l, hl, rfl⟩ := List.mem_map.mp member
  rw [Line.laid, String.toList_append, List.mem_append] at inside
  rcases inside with inside | inside
  · split at inside
    · simp at inside
    · rw [String.toList_append, String.toList_ofList, List.mem_append] at inside
      rcases inside with inside | inside
      · exact notSpace (List.eq_of_mem_replicate inside)
      · exact apart l hl inside
  · exact notEnd inside

/-- No escape sequence begins in a source. -/
theorem not_mem_escape_of_render {document : Json} {g : Graph} {draft : Draft} {s : Settings}
    {source : String} (accepted : Document.readGraph document = .ok g)
    (frozen : draft.freeze = .ok s) (rendered : render g s = .ok source) :
    '\x1b' ∉ source.toList := by
  have wf := Document.readGraph_wellFormed accepted
  obtain ⟨p, planned, settled⟩ := planFor_settled wf s
  have known := settled.planned wf
  have lineEnd : '\x1b' ∉ s.lineEnd.text.toList := by cases s.lineEnd <;> decide
  rw [render_laidOut planned known.complete] at rendered
  cases rendered
  refine not_mem_laidOut (fun l hl => ?_) (by decide) lineEnd s.indentWidth
  exact (legible_sourceLines known (Settings.freeze_isDotted frozen) l hl).not_mem_escape

/-- The lines of the source of an accepted document depend on the namespace and the
forbidden names alone. Whatever else is chosen, the source is these lines laid out, behind
the comment where it is wanted. -/
theorem render_layout {document : Json} {g : Graph} {draft : Draft} {s : Settings}
    (accepted : Document.readGraph document = .ok g) (frozen : draft.freeze = .ok s) :
    ∃ lines : List Line, (∀ l ∈ lines, OneLine l.text) ∧
      ∀ (other : Draft) (t : Settings), other.freeze = .ok t → t.namespaceName = s.namespaceName →
        t.forbiddenNames = s.forbiddenNames →
          render g t = .ok (headerText t ++ laidOut t.indentWidth t.lineEnd.text lines) ∧
          ∃ text, render g { t with lineEnd := .lf } = .ok text ∧
            render g { t with lineEnd := .crlf } = .ok (withCrlf text) := by
  have wf := Document.readGraph_wellFormed accepted
  have dotted := Settings.freeze_isDotted frozen
  obtain ⟨p, planned, settled⟩ := planFor_settled wf s
  have known := settled.planned wf
  refine ⟨bodyLines p s.namespaceName, oneLine_bodyLines known dotted,
    fun other t _ sameName sameForbidden => ?_⟩
  have plannedFor (u : Settings) (same : u.forbiddenNames = s.forbiddenNames) :
      planFor g u = .ok p :=
    (planFor_congr same g).trans planned
  have oneLine : ∀ l ∈ sourceLines p t, OneLine l.text :=
    oneLine_sourceLines known (sameName ▸ dotted)
  refine ⟨?_, _, render_laidOut (plannedFor { t with lineEnd := .lf } sameForbidden) known.complete,
    ?_⟩
  · rw [render_laidOut (plannedFor t sameForbidden) known.complete, laidOut_sourceLines, sameName]
  · rw [render_laidOut (plannedFor { t with lineEnd := .crlf } sameForbidden) known.complete]
    exact congrArg Except.ok (withCrlf_laidOut oneLine t.indentWidth).symm

theorem sample_layout :
    ({} : Draft).freeze = .ok {} ∧
      ({ headerComment := some false, indentWidth := some 0,
         lineEnd := some .crlf } : Draft).freeze =
        .ok { headerComment := false, indentWidth := 0, lineEnd := .crlf } ∧
      ∃ lines, (∀ l ∈ lines, OneLine l.text) ∧
        render Document.sampleGraph {} = .ok (headerText {} ++ laidOut 4 "\n" lines) ∧
        render Document.sampleGraph { headerComment := false, indentWidth := 0, lineEnd := .crlf } =
          .ok (laidOut 0 "\r\n" lines) := by
  have frozen : ({} : Draft).freeze = .ok {} := by decide
  have other :
      ({ headerComment := some false, indentWidth := some 0,
         lineEnd := some .crlf } : Draft).freeze =
        .ok { headerComment := false, indentWidth := 0, lineEnd := .crlf } := by decide
  obtain ⟨lines, oneLine, laid⟩ := render_layout Document.readGraph_sample frozen
  have bare := (laid _ _ other rfl rfl).1
  exact ⟨frozen, other, lines, oneLine, (laid _ _ frozen rfl rfl).1,
    bare.trans (by simp [headerText, LineEnd.text])⟩

end Source
end Shapewright
