import Mathlib
import Shapewright.Command.Run
import Shapewright.Proofs.Command.Level
import Shapewright.Proofs.Files.Saving
import Shapewright.Proofs.Result
import Shapewright.Proofs.Source.Formatting
import Shapewright.Proofs.Terminal.Console
import Shapewright.Proofs.Text.Utf8

/-!
# Rendering is all or nothing

A run that renders goes through its stages before it prints or writes anything. Either all of them
succeed and the source is delivered as it is, or the run fails and leaves all files alone.
-/
namespace Shapewright.Command
open Files Result

theorem Trouble.code_ne_zero (t : Trouble) : t.status.code ≠ 0 := by
  cases t with
  | failure f => cases f <;> exact Nat.succ_ne_zero _
  | _ => exact Nat.succ_ne_zero _

section Stages
variable {s : Surroundings} {given : List (Given GroupOption)} {request : RenderRequest}
  {source : String}

/-- What the stages of a run that renders come to. -/
structure Stages (s : Surroundings) (given : List (Given GroupOption)) (request : RenderRequest)
    (level : Int) (settings : Settings) (text : String) (g : Graph) (source : String) : Prop where
  leveled : resolveLevel s given = .ok level
  resolved : resolveSettings s request.config request.choices = .ok settings
  input : readInput s request.document = .ok text
  read : Document.readText text = .ok g
  rendered : Source.render g settings = .ok source

/-- All stages succeed, and the source is what they come to. -/
def Produces (s : Surroundings) (given : List (Given GroupOption)) (request : RenderRequest)
    (source : String) : Prop :=
  ∃ level settings text g, Stages s given request level settings text g source

/-- The source that a request asks for, with all that can go wrong on the way to it. -/
def sourceFor (s : Surroundings) (given : List (Given GroupOption)) (request : RenderRequest) :
    Except Trouble String := do
  let _ ← resolveLevel s given
  let settings ← resolveSettings s request.config request.choices
  let text ← readInput s request.document
  let g ← loadGraph text
  renderSource g settings

theorem loadGraph_eq_ok {text : String} {g : Graph} :
    loadGraph text = .ok g ↔ Document.readText text = .ok g := by
  unfold loadGraph
  split <;> simp_all

theorem renderSource_eq_ok {g : Graph} {settings : Settings} :
    renderSource g settings = .ok source ↔ Source.render g settings = .ok source := by
  unfold renderSource
  split <;> simp_all

theorem produces_iff :
    Produces s given request source ↔ sourceFor s given request = .ok source := by
  simp only [sourceFor, bind_eq_ok, loadGraph_eq_ok, renderSource_eq_ok]
  constructor
  · rintro ⟨level, settings, text, g, stages⟩
    exact ⟨level, stages.leveled, settings, stages.resolved, text, stages.input, g, stages.read,
      stages.rendered⟩
  · rintro ⟨level, leveled, settings, resolved, text, input, g, read, rendered⟩
    exact ⟨level, settings, text, g, ⟨leveled, resolved, input, read, rendered⟩⟩

/-- Every stage comes before the delivery. -/
theorem run_render {line words : List String}
    (asked : readArguments groupForms false line = .ok (given, "render" :: words))
    (noHelp : count given .help = 0) (read : readRender s.files words = .ok (some request)) :
    run s line = sourceFor s given request >>= fun source => delivered s source request.output := by
  have name : Subcommand.ofName? "render" = some .render := rfl
  rw [(Asks.command asked noHelp name).run_eq s]
  simp only [Subcommand.run, runRender, read, requested, ok_bind, sourceFor, bind_assoc]

theorem readGraph_of_readText {text : String} {g : Graph} (read : Document.readText text = .ok g) :
    ∃ document, Document.readGraph document = .ok g := by
  unfold Document.readText at read
  split at read
  · next document _ =>
    split at read
    · next graph => exact ⟨document, graph.trans (congrArg Except.ok (Except.ok.inj read))⟩
    · cases read
  · cases read
  · cases read

theorem freeze_of_loading {draft : Draft} {settings : Settings}
    (settled : loading (Settings.settle draft) = .ok settings) : draft.freeze = .ok settings := by
  unfold Settings.settle at settled
  cases frozen : draft.freeze with
  | ok found =>
    rw [frozen] at settled
    exact congrArg Except.ok (Except.ok.inj settled)
  | error e =>
    rw [frozen] at settled
    cases settled

theorem freeze_of_resolveSettings {config : Option Path} {choices : Draft} {settings : Settings}
    (resolved : resolveSettings s config choices = .ok settings) :
    ∃ draft : Draft, draft.freeze = .ok settings := by
  have layered (h : (loading (Settings.load s.files (some s.directory) config) >>= fun draft =>
      loading (Settings.settle (draft.layer choices))) = .ok settings) :
      ∃ draft : Draft, draft.freeze = .ok settings := by
    obtain ⟨draft, -, settled⟩ := bind_eq_ok.mp h
    exact ⟨_, freeze_of_loading settled⟩
  cases config with
  | none => exact layered resolved
  | some path =>
    by_cases long : s.files path = .overlong
    · simp only [resolveSettings, long, if_true] at resolved
      cases resolved
    · by_cases isFile : (s.files path).isFile
      · simp only [resolveSettings, long, isFile, Bool.not_true, Bool.false_eq_true, if_false]
          at resolved
        exact layered resolved
      · simp only [resolveSettings, long, isFile, Bool.not_false, if_true, if_false] at resolved
        cases resolved

/-- No source has anything in it that a console would leave out. -/
theorem Produces.print_eq (h : Produces s given request source) :
    (s.console.print source false).out = source := by
  obtain ⟨level, settings, text, g, stages⟩ := h
  obtain ⟨document, accepted⟩ := readGraph_of_readText stages.read
  obtain ⟨draft, frozen⟩ := freeze_of_resolveSettings stages.resolved
  rw [Console.print_of_not_mem _ (Source.not_mem_escape_of_render accepted frozen stages.rendered)]

end Stages

/-- The world when the file of a run, if there is one, has been written. -/
def after (w : World) : Option (Path × String) → World
  | none => w
  | some (path, text) => w.save path (Utf8.encode text)

/-- No file is written, so every path leads to what it led to before. -/
structure LeavesAlone (w : World) (e : Ending) : Prop where
  unwritten : e.written = none
  same : ∀ path, (after w e.written).view path = w.view path

theorem leavesAlone {e : Ending} (unwritten : e.written = none) (w : World) : LeavesAlone w e :=
  ⟨unwritten, fun path => by rw [unwritten, after]⟩

/-- What a text that was written to a path has changed. What is written outside the trees
or to a sink is not seen. -/
structure Saved (w w' : World) (path : Path) (text : String) : Prop where
  holds : (w.place? path).isSome → w.view path ≠ .sink → w'.view path = .file (Utf8.encode text)
  elsewhere : ∀ other, w.place? other ≠ w.place? path → w'.view other = w.view other

/-- The source is printed where no file is asked for, and otherwise it is written
where nothing is in the way. -/
def Delivers (w : World) (e : Ending) (source : String) : Option Path → Prop
  | none => e.code = 0 ∧ e.out = source ∧ LeavesAlone w e
  | some path =>
    e.out = "" ∧
      (∀ obstacle, obstacle? w.view path = some obstacle → e.code = 74 ∧ LeavesAlone w e) ∧
      (obstacle? w.view path = none →
        e.code = 0 ∧ e.written = some (path, source) ∧ Saved w (after w e.written) path source)

section Delivery
variable {w : World} {path : Path}

/-- A path is open for a file that is there, and for a new one in a directory that is there. -/
theorem open_of_obstacle? (free : obstacle? w.view path = none) :
    (∃ bytes, w.view path = .file bytes) ∨ w.view path = .sink ∨
      w.view path = .missing ∧ w.view path.parent = .directory := by
  unfold obstacle? at free
  split at free
  · next bytes there => exact .inl ⟨bytes, there⟩
  · next there => exact .inr (.inl there)
  · cases free
  · cases free
  · cases free
  · cases free
  · next there =>
    split at free
    · next above => exact .inr (.inr ⟨there, above⟩)
    all_goals cases free

theorem saved_of_obstacle? (free : obstacle? w.view path = none) (text : String) :
    Saved w (w.save path (Utf8.encode text)) path text := by
  cases leads : w.place? path with
  | none =>
    have same : w.save path (Utf8.encode text) = w := by simp only [World.save, leads]
    refine ⟨fun inside => ?_, fun other _ => congrArg (World.view · other) same⟩
    rw [leads] at inside
    cases inside
  | some place =>
    rcases open_of_obstacle? free with ⟨bytes, there⟩ | sink | ⟨there, above⟩
    · have takes := World.takes_of_file leads there
      exact ⟨fun _ notSink => takes.save_eq notSink, fun _ apart => takes.save_of_ne apart⟩
    · have same : w.save path (Utf8.encode text) = w := by
        simp only [World.save, leads, sink, if_true]
      exact ⟨fun _ notSink => absurd sink notSink,
        fun other _ => congrArg (World.view · other) same⟩
    · have takes := World.takes_of_missing leads there above
      exact ⟨fun _ notSink => takes.save_eq notSink, fun _ apart => takes.save_of_ne apart⟩

theorem delivers_of_delivered {s : Surroundings} {source : String} (looks : s.files = w.view)
    (shown : (s.console.print source false).out = source) (output : Option Path) :
    Delivers w (s.ending (delivered s source output)) source output := by
  cases output with
  | none => exact ⟨rfl, shown, leavesAlone rfl w⟩
  | some path =>
    rw [delivered, looks]
    cases found : obstacle? w.view path with
    | none =>
      refine ⟨rfl, fun obstacle blocked => ?_, fun _ => ⟨rfl, rfl, saved_of_obstacle? found source⟩⟩
      rw [found] at blocked
      cases blocked
    | some obstacle =>
      refine ⟨rfl, fun _ _ => ⟨rfl, leavesAlone rfl w⟩, fun free => ?_⟩
      rw [found] at free
      cases free

/-- A run that is asked for a source delivers it as it is. If a stage fails, the run fails, prints
nothing and leaves all files as they are. -/
theorem render_all_or_nothing {s : Surroundings} {line words : List String}
    {given : List (Given GroupOption)} {request : RenderRequest} (looks : s.files = w.view)
    (asked : readArguments groupForms false line = .ok (given, "render" :: words))
    (noHelp : count given .help = 0) (read : readRender s.files words = .ok (some request)) :
    ((∀ source, ¬ Produces s given request source) →
      (s.ending (run s line)).code ≠ 0 ∧ (s.ending (run s line)).out = "" ∧
        LeavesAlone w (s.ending (run s line))) ∧
      ∀ source, Produces s given request source →
        Delivers w (s.ending (run s line)) source request.output := by
  rw [run_render asked noHelp read]
  constructor
  · intro nothing
    cases comes : sourceFor s given request with
    | ok source => exact absurd (produces_iff.mpr comes) (nothing source)
    | error trouble => exact ⟨trouble.code_ne_zero, rfl, leavesAlone rfl w⟩
  · intro source produced
    rw [produces_iff.mp produced, ok_bind]
    exact delivers_of_delivered looks produced.print_eq request.output

/-- A document and a file from an earlier run. -/
def sampleTree (document : String) : Tree :=
  [(["shape.json"], .file (Utf8.encode document)), (["out.cs"], .file (Utf8.encode "old"))]

def sampleWorld (document : String) : World := { here := sampleTree document }

def sampleDocument : String := "\x7b\"top_level\": \x7b\"kind\": \"null\"\x7d\x7d"

def sampleRun (document : String) : Surroundings := { files := (sampleTree document).view }

def sampleOutput : Path := ⟨.here, ["out.cs"]⟩

def sampleRequest : RenderRequest := ⟨"shape.json", some sampleOutput, none, {}⟩

def sampleEnding (document : String) : Ending :=
  (sampleRun document).ending (run (sampleRun document) ["render", "shape.json", "-o", "out.cs"])

theorem readInput_sampleRun {document : String} (unified : Lines.unify document = document) :
    readInput (sampleRun document) "shape.json" = .ok document := by
  have found : readInput (sampleRun document) "shape.json" =
      decodeFile ⟨.here, ["shape.json"]⟩ (Utf8.encode document) := rfl
  rw [found, decodeFile, Utf8.decode_encode]
  simp only [unified]

/-- A document that is read, and one that breaks off. -/
theorem sample_all_or_nothing :
    (∃ source, Produces (sampleRun sampleDocument) [] sampleRequest source ∧
      (sampleEnding sampleDocument).code = 0 ∧
      (after (sampleWorld sampleDocument) (sampleEnding sampleDocument).written).view sampleOutput =
        .file (Utf8.encode source)) ∧
      (sampleEnding "\x7b").code ≠ 0 ∧ LeavesAlone (sampleWorld "\x7b") (sampleEnding "\x7b") := by
  have asked : readArguments groupForms false ["render", "shape.json", "-o", "out.cs"] =
      .ok ([], "render" :: ["shape.json", "-o", "out.cs"]) := rfl
  have requested (document : String) :
      readRender (sampleRun document).files ["shape.json", "-o", "out.cs"] =
      .ok (some sampleRequest) := rfl
  constructor
  · have read : Document.readText sampleDocument = .ok (Graph.new [] .null) := by cbv
    obtain ⟨document, accepted⟩ := readGraph_of_readText read
    have wf := Document.readGraph_wellFormed accepted
    obtain ⟨p, planned, settled⟩ := Source.planFor_settled wf {}
    obtain ⟨conversion, rendered⟩ := Source.render_eq planned (settled.complete wf)
    have produced : Produces (sampleRun sampleDocument) [] sampleRequest _ :=
      ⟨_, {}, _, _, rfl, rfl, readInput_sampleRun rfl, read, rendered⟩
    obtain ⟨-, -, written⟩ :=
      (render_all_or_nothing (Tree.view_eq _) asked rfl (requested _)).2 _ produced
    obtain ⟨code, -, saved⟩ := written rfl
    have old : World.view ⟨sampleTree sampleDocument, Tree.system⟩ sampleOutput =
        .file (Utf8.encode "old") := rfl
    exact ⟨_, produced, code, saved.holds rfl (by rw [old]; exact Node.noConfusion)⟩
  · have refused : Document.readText "\x7b" =
        .error (.fault ⟨[], .badJson .propertyName ⟨1, 1, 2⟩⟩) := by cbv
    have nothing : ∀ source, ¬ Produces (sampleRun "\x7b") [] sampleRequest source := by
      rintro source ⟨_, _, text, g, stages⟩
      have input := stages.input.symm.trans (readInput_sampleRun rfl)
      have read := stages.read
      rw [Except.ok.inj input, refused] at read
      cases read
    obtain ⟨code, -, alone⟩ :=
      (render_all_or_nothing (Tree.view_eq _) asked rfl (requested _)).1 nothing
    exact ⟨code, alone⟩

end Delivery

end Shapewright.Command
