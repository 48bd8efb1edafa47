import Shapewright.Command.Run
import Shapewright.Proofs.Ordered
import Shapewright.Proofs.Settings.Namespace

/-!
# Layers of settings

Drafts laid over one another come to the same draft however they are grouped, and every choice is
the one of the highest draft that makes it. The settings of a run are such layers: the defaults, the
files, and the choices of the command line.
-/
namespace Shapewright

namespace Draft

/-- Drafts laid over one another, grouped in some way. -/
inductive Layering where
  | draft (d : Draft)
  | merge (lower upper : Layering)

namespace Layering

/-- The drafts of a layering, the lowest first. -/
def drafts : Layering → List Draft
  | draft d => [d]
  | merge lower upper => lower.drafts ++ upper.drafts

def merged : Layering → Draft
  | draft d => d
  | merge lower upper => lower.merged.layer upper.merged

end Layering

/-- The choice of the highest draft that makes one. -/
def lastChoice {α : Type} (choice : Draft → Option α) (ds : List Draft) : Option α :=
  (ds.filterMap choice).getLast?

/-- Settings in which every choice is the last one made, and the default where there is none. -/
structure Resolved (ds : List Draft) (s : Settings) : Prop where
  namespaceName : s.namespaceName = (lastChoice Draft.namespaceName ds).getD "QuickType"
  headerComment : s.headerComment = (lastChoice Draft.headerComment ds).getD true
  indentWidth : (s.indentWidth : Int) = (lastChoice Draft.indentWidth ds).getD 4
  lineEnd : s.lineEnd = (lastChoice Draft.lineEnd ds).getD .lf
  forbiddenNames : s.forbiddenNames = (ds.flatMap Draft.forbiddenNames).eraseDups
  sources : s.sources = ds.flatMap Draft.sources

section LastChoice
variable {α : Type} (choice : Draft → Option α)

theorem lastChoice_append (ds es : List Draft) :
    lastChoice choice (ds ++ es) = (lastChoice choice es).or (lastChoice choice ds) := by
  rw [lastChoice, List.filterMap_append, List.getLast?_append]
  rfl

theorem lastChoice_singleton (d : Draft) : lastChoice choice [d] = choice d := by
  cases h : choice d <;> simp [lastChoice, h]

/-- Under all drafts a choice that is always made is a default. -/
theorem lastChoice_cons_of_some {d : Draft} {a : α} (made : choice d = some a) (ds : List Draft) :
    lastChoice choice (d :: ds) = some ((lastChoice choice ds).getD a) := by
  rw [← List.singleton_append, lastChoice_append, lastChoice_singleton, made]
  cases lastChoice choice ds <;> rfl

end LastChoice

/-- The draft that a list of layers comes to. -/
def stacked (ds : List Draft) : Draft where
  namespaceName := lastChoice Draft.namespaceName ds
  headerComment := lastChoice Draft.headerComment ds
  indentWidth := lastChoice Draft.indentWidth ds
  lineEnd := lastChoice Draft.lineEnd ds
  forbiddenNames := ds.flatMap Draft.forbiddenNames
  sources := ds.flatMap Draft.sources

theorem stacked_singleton (d : Draft) : stacked [d] = d := by
  simp only [stacked, lastChoice_singleton, List.flatMap_cons, List.flatMap_nil, List.append_nil]

theorem layer_stacked (ds es : List Draft) :
    (stacked ds).layer (stacked es) = stacked (ds ++ es) := by
  simp only [stacked, layer, lastChoice_append, List.flatMap_append]

theorem foldl_layer (ds es : List Draft) : es.foldl layer (stacked ds) = stacked (ds ++ es) := by
  induction es generalizing ds with
  | nil => rw [List.foldl_nil, List.append_nil]
  | cons e es ih =>
    have step : (stacked ds).layer e = stacked (ds ++ [e]) := by
      rw [← layer_stacked, stacked_singleton]
    rw [List.foldl_cons, step, ih, List.append_assoc, List.singleton_append]

/-- The grouping of the layers does not matter. -/
theorem Layering.merged_eq (l : Layering) : l.merged = stacked l.drafts := by
  induction l with
  | draft d => exact (stacked_singleton d).symm
  | merge lower upper lowerIh upperIh =>
    rw [Layering.merged, Layering.drafts, lowerIh, upperIh, layer_stacked]

theorem checkIndent_eq_ok {width : Int} {n : Nat} :
    checkIndent width = .ok n ↔ width = (n : Int) := by
  rw [checkIndent]
  split
  · exact iff_of_false (fun h => by cases h) (by omega)
  · rw [Except.ok.injEq]
    omega

theorem checkForbidden_eq_ok {names kept : List String} (h : checkForbidden names = .ok kept) :
    kept = names.eraseDups := by
  rw [checkForbidden] at h
  split at h
  · cases h
  · rw [← Ordered.firstSeen_eq_eraseDups]
    exact (Except.ok.inj h).symm

/-- Over the defaults every choice is made. -/
theorem stacked_defaults_resolved {ds : List Draft} {s : Settings}
    (frozen : (stacked (defaults :: ds)).freeze = .ok s) : Resolved ds s := by
  have name := lastChoice_cons_of_some Draft.namespaceName (d := defaults) rfl ds
  have header := lastChoice_cons_of_some Draft.headerComment (d := defaults) rfl ds
  have indent := lastChoice_cons_of_some Draft.indentWidth (d := defaults) rfl ds
  have lineEnd := lastChoice_cons_of_some Draft.lineEnd (d := defaults) rfl ds
  simp only [freeze, stacked, name, header, indent, lineEnd, Option.getD_some] at frozen
  obtain ⟨n, named, frozen⟩ := Result.bind_eq_ok.mp frozen
  obtain ⟨width, indented, frozen⟩ := Result.bind_eq_ok.mp frozen
  obtain ⟨names, forbidden, frozen⟩ := Result.bind_eq_ok.mp frozen
  cases frozen
  exact {
    namespaceName := (Settings.checkNamespace_eq_ok.mp named).2.symm
    headerComment := rfl
    indentWidth := (checkIndent_eq_ok.mp indented).symm
    lineEnd := rfl
    forbiddenNames := checkForbidden_eq_ok forbidden
    sources := rfl }

end Draft

namespace Settings
open Files Result

/-- What a file adds to the layers; a shared file may have nothing to add. -/
def fileDraft (files : View) (path : Path) : Except LoadError (List Draft) :=
  (loadFile files path).map Option.toList

/-- What a file that may be absent adds to the layers. -/
def localDraft (files : View) (path : Path) : Except LoadError (List Draft) :=
  if (files path).isFile then fileDraft files path else .ok []

/-- The drafts of the files of a run, the lowest layer first. -/
def fileDrafts (files : View) (directory extra : Option Path) : Except LoadError (List Draft) := do
  let shared ← directory.elim (.ok []) fun d => localDraft files (d.child sharedFile)
  let own ← directory.elim (.ok []) fun d => localDraft files (d.child ownFile)
  let asked ← extra.elim (.ok []) (fileDraft files)
  return shared ++ own ++ asked

theorem loadLayers_cons (files : View) (lower : Draft) (path : Path) (paths : List Path) :
    loadLayers files lower (path :: paths) =
      fileDraft files path >>= fun ds => loadLayers files (ds.foldl Draft.layer lower) paths := by
  rw [loadLayers, fileDraft]
  cases loadFile files path with
  | error e => rfl
  | ok draft? => cases draft? <;> rfl

theorem loadLayers_filter_cons (files : View) (lower : Draft) (path : Path)
    (paths rest : List Path) :
    loadLayers files lower (((path :: paths).filter fun p => (files p).isFile) ++ rest) =
      localDraft files path >>= fun ds =>
        loadLayers files (ds.foldl Draft.layer lower)
          ((paths.filter fun p => (files p).isFile) ++ rest) := by
  rw [List.filter_cons, localDraft]
  split
  · rw [List.cons_append, loadLayers_cons]
  · rfl

/-- The files are laid over the defaults in their order, and the first fault of one of them is
reported. -/
theorem load_eq (files : View) (directory extra : Option Path) :
    load files directory extra = (fileDrafts files directory extra).map fun ds =>
      Draft.stacked (.defaults :: ds) := by
  have asked (lower : List Draft) : loadLayers files (Draft.stacked lower) extra.toList =
      (extra.elim (.ok []) (fileDraft files)).map fun ds => Draft.stacked (lower ++ ds) := by
    cases extra with
    | none => rw [Option.toList_none, loadLayers, Option.elim_none, Except.map, List.append_nil]
    | some path =>
      rw [Option.toList_some, loadLayers_cons, Option.elim_some]
      cases fileDraft files path with
      | error e => rfl
      | ok ds => rw [ok_bind, loadLayers, Draft.foldl_layer, Except.map]
  have start (ds : List Draft) :
      ds.foldl Draft.layer .defaults = Draft.stacked (.defaults :: ds) := by
    have folded := Draft.foldl_layer [.defaults] ds
    rwa [Draft.stacked_singleton, List.singleton_append] at folded
  rw [load, layers.eq_def, fileDrafts]
  cases directory with
  | none =>
    simp only [Option.elim_none, List.nil_append, ok_bind]
    rw [← Draft.stacked_singleton .defaults, asked, Draft.stacked_singleton]
    cases extra.elim (.ok []) (fileDraft files) <;> rfl
  | some d =>
    simp only [Option.elim_some]
    rw [loadLayers_filter_cons]
    cases localDraft files (d.child sharedFile) with
    | error e => rfl
    | ok shared =>
      rw [ok_bind, ok_bind, loadLayers_filter_cons]
      cases localDraft files (d.child ownFile) with
      | error e => rfl
      | ok own =>
        rw [ok_bind, ok_bind, List.filter_nil, List.nil_append, start, Draft.foldl_layer, asked]
        cases extra.elim (.ok []) (fileDraft files) with
        | error e => rfl
        | ok ds => simp [Except.map]

end Settings

namespace Command
open Draft Files Result Settings

/-- The choices of the command line are one more layer. -/
theorem resolveSettings_eq {s : Surroundings} {config : Option Path}
    (there : ∀ path, config = some path → (s.files path).isFile) (choices : Draft) :
    resolveSettings s config choices =
      loading (fileDrafts s.files (some s.directory) config >>= fun ds =>
      settle (stacked (.defaults :: (ds ++ [choices])))) := by
  have loaded : resolveSettings s config choices =
      loading (load s.files (some s.directory) config) >>= fun draft =>
      loading (settle (draft.layer choices)) := by
    cases config with
    | none => rfl
    | some path =>
      have isFile := there path rfl
      have short : s.files path ≠ .overlong := by
        intro overlong
        rw [overlong] at isFile
        cases isFile
      simp only [resolveSettings, short, isFile, Bool.not_true, Bool.false_eq_true, if_false]
  rw [loaded, load_eq]
  cases fileDrafts s.files (some s.directory) config with
  | error e => cases e <;> rfl
  | ok ds =>
    have above : (stacked (.defaults :: ds)).layer choices =
        stacked (.defaults :: (ds ++ [choices])) := by
      rw [← stacked_singleton choices, layer_stacked, List.cons_append, stacked_singleton]
    rw [ok_bind, ← above]
    rfl

/-- However layers are grouped, each choice is the one of the highest layer that makes it.
The settings of a run are these layers: the defaults, the files that have something to
add, and the command line. -/
theorem layers_resolve :
    (∀ ds (l : Layering), l.drafts = .defaults :: ds →
      (∀ k : Layering, k.drafts = l.drafts → k.merged.freeze = l.merged.freeze) ∧
      ∀ s, l.merged.freeze = .ok s → Resolved ds s) ∧
    (∀ files directory extra,
      (∀ e, fileDrafts files directory extra = .error e → load files directory extra = .error e) ∧
      ∀ ds, fileDrafts files directory extra = .ok ds →
        ∀ l : Layering, l.drafts = .defaults :: ds → load files directory extra = .ok l.merged) ∧
    ∀ (s : Surroundings) config choices, (∀ path, config = some path → (s.files path).isFile) →
      (∀ e, fileDrafts s.files (some s.directory) config = .error e →
        resolveSettings s config choices = loading (.error e)) ∧
      ∀ ds, fileDrafts s.files (some s.directory) config = .ok ds →
        ∀ l : Layering, l.drafts = .defaults :: (ds ++ [choices]) →
          resolveSettings s config choices = loading (settle l.merged) := by
  refine ⟨fun ds l layered => ⟨fun k same => ?_, fun s frozen => ?_⟩,
    fun files directory extra => ⟨fun e failed => ?_, fun ds read l layered => ?_⟩,
    fun s config choices there => ⟨fun e failed => ?_, fun ds read l layered => ?_⟩⟩
  · rw [k.merged_eq, l.merged_eq, same]
  · rw [l.merged_eq, layered] at frozen
    exact stacked_defaults_resolved frozen
  · rw [load_eq, failed, Except.map]
  · rw [load_eq, read, Except.map, l.merged_eq, layered]
  · rw [resolveSettings_eq there, failed, error_bind]
  · rw [resolveSettings_eq there, read, ok_bind, l.merged_eq, layered]

def sampleLower : Draft :=
  { headerComment := some true, indentWidth := some 2, forbiddenNames := ["Model", "Data"],
    sources := ["lower"] }

def sampleUpper : Draft :=
  { headerComment := some false, indentWidth := some 0, lineEnd := some .crlf,
    forbiddenNames := ["Data", "Node"] }

def sampleLayering : Layering :=
  .merge (.draft .defaults) (.merge (.draft sampleLower) (.draft sampleUpper))

def sampleSettings : Settings :=
  ⟨"QuickType", false, 0, .crlf, ["Model", "Data", "Node"], ["lower"]⟩

/-- A shared file without settings and an own file in which nothing is chosen. -/
def sampleSurroundings : Surroundings where
  files path :=
    if path = ⟨.here, ["pyproject.toml"]⟩ ∨ path = ⟨.here, ["sharpshape.toml"]⟩ then .file []
    else .missing

theorem sample_layers_resolve :
    (Layering.merge (.merge (.draft .defaults) (.draft sampleLower))
      (.draft sampleUpper)).merged.freeze =
        .ok sampleSettings ∧
      Resolved [sampleLower, sampleUpper] sampleSettings ∧
      load sampleSurroundings.files (some sampleSurroundings.directory) none =
        .ok (Layering.merge (.draft .defaults) (.draft { sources := ["sharpshape.toml"] })).merged ∧
      resolveSettings sampleSurroundings none sampleUpper =
        .ok ⟨"QuickType", false, 0, .crlf, ["Data", "Node"], ["sharpshape.toml"]⟩ := by
  have read : fileDrafts sampleSurroundings.files (some sampleSurroundings.directory) none =
      .ok [{ sources := ["sharpshape.toml"] }] := rfl
  have frozen : sampleLayering.merged.freeze = .ok sampleSettings := rfl
  obtain ⟨same, resolved⟩ := layers_resolve.1 [sampleLower, sampleUpper] sampleLayering rfl
  refine ⟨(same _ rfl).trans frozen, resolved _ frozen, (layers_resolve.2.1 _ _ _).2 _ read _ rfl,
    ?_⟩
  have above := (layers_resolve.2.2 sampleSurroundings none sampleUpper nofun).2 _ read
    (.merge (.merge (.draft .defaults) (.draft { sources := ["sharpshape.toml"] }))
      (.draft sampleUpper)) rfl
  exact above.trans rfl

end Command

end Shapewright
