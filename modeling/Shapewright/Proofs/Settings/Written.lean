import Shapewright.Proofs.Settings.Layers
import Shapewright.Proofs.Terminal.Console
import Shapewright.Proofs.Text.Utf8
import Shapewright.Proofs.Toml.Document

/-!
# Settings written and read back

Frozen settings come back from the draft that they thaw to, from the table that they are put into,
and from a file that holds this table in writing.
-/
namespace Shapewright

namespace Lines

/-- Without carriage returns every line ends as it should. -/
theorem unify_of_not_mem {text : String} (h : '\r' ∉ text.toList) : unify text = text := by
  have kept : unified text.toList = text.toList := by
    generalize text.toList = cs at h
    induction cs with
    | nil => rfl
    | cons c cs ih =>
      obtain ⟨apart, rest⟩ := not_or.mp (mt List.mem_cons.mpr h)
      rw [unified, if_neg (Ne.symm apart), ih rest]
      rintro rest rfl
      exact absurd rfl apart
  rw [unify, kept, String.ofList_toList]

end Lines

namespace Settings
open Identifier Result

/-- What freezing promises. -/
structure Settled (s : Settings) : Prop where
  dotted : IsDotted s.namespaceName
  legal : ∀ name ∈ s.forbiddenNames, IsValid name
  nodup : s.forbiddenNames.Nodup

theorem settled_of_freeze {draft : Draft} {s : Settings} (frozen : draft.freeze = .ok s) :
    Settled s := by
  have dotted := freeze_isDotted frozen
  obtain ⟨name, -, h⟩ := bind_eq_ok.mp frozen
  obtain ⟨width, -, h⟩ := bind_eq_ok.mp h
  obtain ⟨names, checked, h⟩ := bind_eq_ok.mp h
  cases h
  rw [Draft.checkForbidden] at checked
  split at checked
  · cases checked
  · next legal =>
    cases checked
    refine ⟨dotted, fun name inside => ?_, Ordered.firstSeen_nodup _⟩
    exact isNone_find?_iff.mp legal name (Ordered.mem_firstSeen.mp inside)

/-- Settled choices are frozen as they are. -/
theorem Settled.freeze {s : Settings} (h : Settled s) (sources : List String) :
    Draft.freeze { s.thaw with sources := sources } = .ok { s with sources := sources } := by
  have named : checkNamespace s.namespaceName = .ok s.namespaceName :=
    checkNamespace_eq_ok.mpr ⟨h.dotted, rfl⟩
  have indented : Draft.checkIndent s.indentWidth = .ok s.indentWidth :=
    Draft.checkIndent_eq_ok.mpr rfl
  have legal : Draft.checkForbidden s.forbiddenNames = .ok s.forbiddenNames := by
    rw [Draft.checkForbidden, isNone_find?_iff.mpr h.legal]
    exact congrArg Except.ok (Ordered.firstSeen_of_nodup h.nodup)
  simp only [Draft.freeze, thaw, Option.getD_some, named, indented, legal, ok_bind]
  rfl

theorem lineEnd_ofName_name (l : LineEnd) : LineEnd.ofName l.name = .ok l := by
  cases l <;> rfl

theorem texts?_map (names : List String) : Toml.texts? (names.map .string) = some names := by
  induction names with
  | nil => rfl
  | cons name names ih => rw [List.map_cons, Toml.texts?, ih, Option.map_some]

theorem stripItems_map (names : List String) :
    Toml.Value.stripItems (names.map .string) = names.map .string := by
  induction names with
  | nil => rfl
  | cons name names ih =>
    rw [List.map_cons, Toml.Value.stripItems, ih]
    rfl

/-- Nothing is absent from the table of settings. -/
theorem stripEntries_toTable (s : Settings) : Toml.Value.stripEntries s.toTable = s.toTable := by
  simp [toTable, Toml.Value.stripEntries, Toml.Value.strip, Toml.Value.isAbsent, stripItems_map]

theorem ofTable_toTable (s : Settings) :
    Draft.ofTable s.toTable = .ok { s.thaw with sources := [] } := by
  have output : Toml.tableUnder s.toTable "output" =
      .ok [("namespace", .string s.namespaceName), ("header_comment", .boolean s.headerComment)] :=
        rfl
  have formatting : Toml.tableUnder s.toTable "formatting" =
      .ok [("indent_width", .integer s.indentWidth), ("newline", .string s.lineEnd.name)] := rfl
  have naming : Toml.tableUnder s.toTable "naming" =
      .ok [("forbidden_names", .array (s.forbiddenNames.map .string))] := rfl
  have named : Draft.lineEndOf (some s.lineEnd.name) = .ok (some s.lineEnd) := by
    rw [Draft.lineEndOf, lineEnd_ofName_name]
    rfl
  have forbidden :
      Toml.forbiddenUnder [("forbidden_names", .array (s.forbiddenNames.map .string))] =
        .ok s.forbiddenNames := by
    simp only [Toml.forbiddenUnder, List.lookup_cons_self, texts?_map]
  have typed : Toml.textUnder [("indent_width", .integer s.indentWidth),
      ("newline", .string s.lineEnd.name)]
      "newline" = .ok (some s.lineEnd.name) := rfl
  rw [Draft.ofTable, output, formatting, naming]
  simp only [ok_bind, typed, named, forbidden]
  rfl

section Writing
open Toml

/-- The tables of settings. -/
def sections (s : Settings) : List (String × Table) := [
  ("output", [
    ("namespace", .string s.namespaceName), ("header_comment", .boolean s.headerComment)]),
  ("formatting", [
    ("indent_width", .integer s.indentWidth), ("newline", .string s.lineEnd.name)]),
  ("naming", [("forbidden_names", .array (s.forbiddenNames.map .string))])]

theorem ofSections_sections (s : Settings) : ofSections s.sections = s.toTable := rfl

/-- What holds of five entries holds of all. -/
theorem forall_entries {P : String × Value → Prop} {s : Settings}
    (namespaceName : P ("namespace", .string s.namespaceName))
    (headerComment : P ("header_comment", .boolean s.headerComment))
    (indentWidth : P ("indent_width", .integer s.indentWidth))
    (lineEnd : P ("newline", .string s.lineEnd.name))
    (forbiddenNames : P ("forbidden_names", .array (s.forbiddenNames.map .string))) :
    ∀ t ∈ s.sections, ∀ e ∈ t.2, P e := by
  simp only [sections, List.forall_mem_cons, List.not_mem_nil, false_implies, implies_true,
    and_true]
  exact ⟨⟨namespaceName, headerComment⟩, ⟨indentWidth, lineEnd⟩, forbiddenNames⟩

theorem isBare_of (key : String) (h : (!key.toList.isEmpty && key.toList.all isBareChar) = true) :
    IsBare key := by
  rw [Bool.and_eq_true, Bool.not_eq_true', List.isEmpty_eq_false_iff, List.all_eq_true] at h
  exact ⟨h.1, h.2⟩

theorem isPlain_names (names : List String) : isPlain (.array (names.map .string)) := by
  cases names <;> simp [isPlain, isTableArray, Value.isTable]

theorem isSectioned (s : Settings) : IsSectioned s.sections where
  bare := by
    simp only [sections, List.forall_mem_cons, List.not_mem_nil, false_implies, implies_true,
      and_true]
    exact ⟨isBare_of _ rfl, isBare_of _ rfl, isBare_of _ rfl⟩
  nodup := (by decide : ["output", "formatting", "naming"].Nodup)
  flat := by
    have bare := forall_entries (s := s) (P := fun e => IsBare e.1) (isBare_of "namespace" rfl)
      (isBare_of "header_comment" rfl) (isBare_of "indent_width" rfl) (isBare_of "newline" rfl)
      (isBare_of "forbidden_names" rfl)
    have plain :=
      forall_entries (s := s) (P := fun e => isPlain e.2) rfl rfl rfl rfl
        (isPlain_names s.forbiddenNames)
    refine fun t inside => ⟨bare t inside, ?_, plain t inside⟩
    simp only [sections, List.mem_cons, List.not_mem_nil, or_false] at inside
    rcases inside with rfl | rfl | rfl
    · exact (by decide : ["namespace", "header_comment"].Nodup)
    · exact (by decide : ["indent_width", "newline"].Nodup)
    · exact (by decide : ["forbidden_names"].Nodup)

theorem calm_sections (s : Settings) :
    ∀ t ∈ s.sections, ∀ e ∈ t.2, IsCalm (inlineText true e.2).toList := by
  refine forall_entries (P := fun e => IsCalm (inlineText true e.2).toList) (calm_string _)
    (calm_boolean _)
    (calm_integer _) (calm_string _) (calm_array ?_ true)
  exact List.forall_mem_map.mpr fun name _ => calm_string name

theorem allWritten {s : Settings}
    (few : (Nat.toDigits 10 s.indentWidth).length ≤ Decimal.maxDigits) : AllWritten s.sections := by
  refine forall_entries (P := fun e => Written maxDepth (inlineText true e.2).toList e.2)
    (written_string _ _)
    (written_boolean _ _) (written_integer few _) (written_string _ _) (written_array 99 ?_ true)
  exact List.forall_mem_map.mpr fun name _ => written_string 99 name

/-- Settings are read back from their table in writing, with any notes above it. -/
theorem read_written {s : Settings}
    (few : (Nat.toDigits 10 s.indentWidth).length ≤ Decimal.maxDigits) (notes : List String)
    (calm : ∀ note ∈ notes, IsCalm note.toList) :
    Toml.read (String.join (notes.map commentLine) ++ render s.toTable) = .ok s.toTable :=
  ofSections_sections s ▸ read_render s.isSectioned (allWritten few) calm

theorem steady_written (s : Settings) : IsSteady (render s.toTable).toList :=
  ofSections_sections s ▸ steady_render s.isSectioned s.calm_sections

end Writing

section Reproduction
open Files Command

/-- A file with the text, laid over the defaults, gives the settings again, with that
file as their only source. -/
def Reproduces (text : String) (s : Settings) : Prop :=
  ∀ (files : View) (path : Path), path.name ≠ sharedFile → files path = .file (Utf8.encode text) →
    (load files none (some path) >>= settle) = .ok { s with sources := [path.text] }

theorem not_mem_of_steady {text : List Char} (h : Toml.IsSteady text) {c : Char}
    (control : Toml.isControl c) (inside : c ≠ '\n') : c ∉ text := by
  intro member
  rcases h c member with rfl | calm
  · exact inside rfl
  · rw [control] at calm
    cases calm

theorem reproduces {s : Settings} (settled : Settled s) {text : String}
    (steady : Toml.IsSteady text.toList) (read : Toml.read text = .ok s.toTable) :
    Reproduces text s := by
  intro files path own holds
  have unified : Lines.unify text = text :=
    Lines.unify_of_not_mem (not_mem_of_steady steady rfl (by decide))
  have table : readTable files path = .ok s.toTable := by
    rw [readTable, holds]
    simp only [Node.bytes?, decodeTable, Utf8.decode_encode, unified, read]
  have loaded : loadFile files path = .ok (some { s.thaw with sources := [path.text] }) := by
    simp only [loadFile, table, ok_bind, ownTable, own, if_false, draftOf, ofTable_toTable]
    rfl
  have laid : load files none (some path) = .ok { s.thaw with sources := [path.text] } := by
    change loadLayers files .defaults [path] = _
    rw [loadLayers, loaded]
    rfl
  rw [laid, ok_bind, settle, settled.freeze]

/-- The line that names a source above the settings when they are printed. -/
def sourceLine (r : Surroundings) (path : String) : String := r.printed ("# source: " ++ path)

theorem runConfig_eq {r : Surroundings} {words : List String} {config : Option Path} {s : Settings}
    (read : readConfig r.files words = .ok (some config))
    (resolved : resolveSettings r config {} = .ok s) :
    runConfig r words =
      .ok { printed := String.join (s.sources.map (sourceLine r)) ++ Toml.render s.toTable } := by
  have plain : '\x1b' ∉ (Toml.render s.toTable).toList :=
    not_mem_of_steady s.steady_written rfl (by decide)
  simp only [runConfig, read, requested, ok_bind, resolved, r.console.print_of_not_mem plain]
  rfl

theorem sourceLine_of_calm (r : Surroundings) {path : String} (calm : Toml.IsCalm path.toList) :
    sourceLine r path = Toml.commentLine (" source: " ++ path) := by
  have plain : '\x1b' ∉ ("# source: " ++ path ++ "\n").toList := by
    have notPath : '\x1b' ∉ path.toList := fun inside => absurd (calm _ inside) (by decide)
    simp [notPath]
  simp only [sourceLine, Surroundings.printed, Console.print, Console.shown, if_true,
    Ansi.strip_of_not_mem plain, ite_self, Toml.commentLine]
  simp [← String.toList_inj]

/-- All that is printed of settings is read back, unless the path of a source breaks its line. -/
theorem reproduces_printed {s : Settings} (settled : Settled s)
    (few : (Nat.toDigits 10 s.indentWidth).length ≤ Decimal.maxDigits)
    (calm : ∀ path ∈ s.sources, Toml.IsCalm path.toList) (r : Surroundings) :
    Reproduces (String.join (s.sources.map (sourceLine r)) ++ Toml.render s.toTable) s := by
  have lines : s.sources.map (sourceLine r) =
      (s.sources.map (" source: " ++ ·)).map Toml.commentLine := by
    rw [List.map_map]
    exact List.map_congr_left fun path inside => sourceLine_of_calm r (calm path inside)
  have notes : ∀ note ∈ s.sources.map (" source: " ++ ·), Toml.IsCalm note.toList := by
    refine List.forall_mem_map.mpr fun path inside => ?_
    rw [String.toList_append]
    exact List.forall_mem_append.mpr ⟨by simp [Toml.isControl], calm path inside⟩
  rw [lines]
  refine reproduces settled ?_ (read_written few _ notes)
  rw [String.toList_append]
  exact (Toml.steady_comments notes).append s.steady_written

/-- Reading undoes writing. -/
def IsReadBack (table : Toml.Table) : Prop := Toml.read (Toml.render table) = .ok table

/-- Frozen settings come back from their own draft, from their table, and, where reading undoes
writing, from a file with the text that is printed of them. Reading does so for every width
that has not too many digits. -/
theorem frozen_survives_writing {draft : Draft} {s : Settings} (frozen : draft.freeze = .ok s) :
    s.thaw.freeze = .ok s ∧
      (∃ d, Draft.ofTable (Toml.Value.stripEntries s.toTable) = .ok d ∧
        d.freeze = .ok { s with sources := [] }) ∧
      (IsReadBack (Toml.Value.stripEntries s.toTable) →
        Reproduces (Toml.render (Toml.Value.stripEntries s.toTable)) s) ∧
      ((Nat.toDigits 10 s.indentWidth).length ≤ Decimal.maxDigits →
        IsReadBack (Toml.Value.stripEntries s.toTable)) ∧
      ∀ (r : Surroundings) (words : List String) (config : Option Path),
        readConfig r.files words = .ok (some config) → resolveSettings r config {} = .ok s →
          runConfig r words =
              .ok { printed := String.join (s.sources.map (sourceLine r)) ++
                Toml.render (Toml.Value.stripEntries s.toTable) } ∧
            ((Nat.toDigits 10 s.indentWidth).length ≤ Decimal.maxDigits →
              (∀ path ∈ s.sources, Toml.IsCalm path.toList) →
              Reproduces (String.join (s.sources.map (sourceLine r)) ++
                Toml.render (Toml.Value.stripEntries s.toTable)) s) := by
  have settled := settled_of_freeze frozen
  rw [stripEntries_toTable]
  refine ⟨settled.freeze s.sources, ⟨_, ofTable_toTable s, settled.freeze []⟩,
    reproduces settled s.steady_written,
    fun few => read_written few [] nofun, fun r words config read resolved => ?_⟩
  exact ⟨runConfig_eq read resolved, fun few calm => reproduces_printed settled few calm r⟩

def sampleDraft : Draft :=
  { namespaceName := some "Acme.Data", headerComment := some false, indentWidth := some 0,
    lineEnd := some .crlf,
    forbiddenNames := ["Model", "Data", "Model"], sources := ["sharpshape.toml"] }

def sampleChoices : Settings :=
  ⟨"Acme.Data", false, 0, .crlf, ["Model", "Data"], ["sharpshape.toml"]⟩

/-- What an empty file of settings leaves to be chosen. -/
def sampleDefaults : Settings := { sources := ["sharpshape.toml"] }

theorem sample_survives_writing :
    sampleChoices.thaw.freeze = .ok sampleChoices ∧
      (∃ d, Draft.ofTable (Toml.Value.stripEntries sampleChoices.toTable) = .ok d ∧
        d.freeze = .ok { sampleChoices with sources := [] }) ∧
      Reproduces (Toml.render (Toml.Value.stripEntries sampleChoices.toTable)) sampleChoices ∧
      runConfig sampleSurroundings [] =
        .ok { printed := String.join (sampleDefaults.sources.map (sourceLine sampleSurroundings)) ++
          Toml.render (Toml.Value.stripEntries sampleDefaults.toTable) } ∧
      Reproduces (String.join (sampleDefaults.sources.map (sourceLine sampleSurroundings)) ++
        Toml.render (Toml.Value.stripEntries sampleDefaults.toTable)) sampleDefaults := by
  have calm : ∀ path ∈ sampleDefaults.sources, Toml.IsCalm path.toList := by
    simp [sampleDefaults, Toml.IsCalm, Toml.isControl]
  have frozen : sampleDraft.freeze = .ok sampleChoices := rfl
  have unchosen : Draft.freeze { sources := ["sharpshape.toml"] } = .ok sampleDefaults := rfl
  obtain ⟨thawed, table, text, readable, -⟩ := frozen_survives_writing frozen
  obtain ⟨-, -, -, -, command⟩ := frozen_survives_writing unchosen
  obtain ⟨printed, whole⟩ := command sampleSurroundings [] none rfl rfl
  exact ⟨thawed, table, text (readable (by decide)), printed, whole (by decide) calm⟩

end Reproduction

end Settings
end Shapewright
