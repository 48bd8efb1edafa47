import Mathlib.Data.List.Basic
import Shapewright.Command.Run
import Shapewright.Proofs.Diagnostics.Level
import Shapewright.Proofs.Result

/-!
# Runs and their level

A run settles its level before it does what it was asked for, and nothing that it does then depends
on the level. What the environment says can keep it from going on only where it looks like a number
and is none.
-/
namespace Shapewright.Command
open Diagnostics Result

/-- What a command line asks for, once the level is settled: a command, or a hint where it names
none. -/
inductive Asks (line : List String) (given : List (Given GroupOption)) :
    (Surroundings → Outcome) → Prop
  | hint : readArguments groupForms false line = .ok (given, []) → count given .help = 0 →
      Asks line given fun s => .ok (Command.hint s)
  | command {name : String} {words : List String} {c : Subcommand} :
      readArguments groupForms false line = .ok (given, name :: words) → count given .help = 0 →
      Subcommand.ofName? name = some c → Asks line given fun s => c.run s words

section Runs
variable {line : List String} {given : List (Given GroupOption)} {act : Surroundings → Outcome}
  {text : String}

theorem Asks.run_eq (asks : Asks line given act) (s : Surroundings) :
    run s line = resolveLevel s given >>= fun _ => act s := by
  cases asks with
  | hint read noHelp =>
    simp only [run, read, usage, ok_bind, noHelp, Nat.lt_irrefl, if_false]
    rfl
  | command read noHelp known =>
    simp only [run, read, usage, ok_bind, noHelp, Nat.lt_irrefl, if_false, known]

/-- What is done does not depend on what the environment says about the level. -/
theorem Asks.leveled (asks : Asks line given act) (s : Surroundings) (level : Option String) :
    act { s with level := level } = act s := by
  cases asks with
  | hint => rfl
  | @command _ _ c => cases c <;> rfl

theorem resolveLevel_of_error {s : Surroundings} {e : LevelError}
    (refused : ofEnvironment s.level = .error e) :
    resolveLevel s given = .error (.surprise (.level e)) := by
  simp only [resolveLevel, refused]

theorem resolveLevel_of_level {s : Surroundings} {level : Int}
    (found : ofEnvironment s.level = .ok (some level)) :
    resolveLevel s given = .ok level := by
  simp only [resolveLevel, found]

/-- A text that says nothing leaves the level to the options, as if it were not there. -/
theorem resolveLevel_of_nothing {s : Surroundings} (nothing : ofEnvironment s.level = .ok none) :
    resolveLevel s given = resolveLevel { s with level := none } given := by
  have absent : ofEnvironment none = .ok none := rfl
  simp only [resolveLevel, nothing, absent]

/-- A text in the environment is refused exactly where it looks like a number and is none, and then
the run stops before what it was asked for. A text that means a level lets it go on with this, and
any other is as good as none. -/
theorem level_stops_iff (text : String) (asks : Asks line given act) (s : Surroundings) :
    ((∃ e, ofEnvironment (some text) = .error e) ↔ IsMisleading (Folded.fold text)) ∧
      (∀ e, ofEnvironment (some text) = .error e →
        run { s with level := some text } line = .error (.surprise (.level e))) ∧
      (∀ level, ofEnvironment (some text) = .ok (some level) ↔ Means (Folded.fold text) level) ∧
      (∀ level, ofEnvironment (some text) = .ok (some level) →
        run { s with level := some text } line = act s) ∧
      (ofEnvironment (some text) = .ok none →
        run { s with level := some text } line = run { s with level := none } line) := by
  refine ⟨ofEnvironment_error_iff, fun e refused => ?_, fun level => ofEnvironment_level_iff,
    fun level found => ?_,
    fun nothing => ?_⟩
  · rw [asks.run_eq, resolveLevel_of_error refused, error_bind]
  · rw [asks.run_eq, resolveLevel_of_level found, ok_bind, asks.leveled s (some text)]
  · rw [asks.run_eq, asks.run_eq, resolveLevel_of_nothing nothing, asks.leveled s (some text),
      asks.leveled s none]

end Runs

theorem fold_ones (n : Nat) :
    Folded.fold (String.ofList (List.replicate n '1')) = List.replicate n '1' := by
  have visible : Unicode.isBlank '1' = false := rfl
  have kept : (List.replicate n '1').dropWhile Unicode.isBlank = List.replicate n '1' := by
    cases n <;> simp [List.replicate_succ, visible]
  have capital : ∀ c ∈ List.replicate n '1', Unicode.upper c = [c] := by
    intro c inside
    obtain rfl := List.eq_of_mem_replicate inside
    rfl
  rw [Folded.fold, Folded.trim, String.toList_ofList, kept, List.reverse_replicate, kept,
    List.reverse_replicate, List.flatMap_congr capital, List.flatMap_singleton']

/-- Surroundings in which there are no files. -/
def bareRun : Surroundings := { files := fun _ => .missing }

/-- A superscript is a digit and stops every run, and so do too many digits of the usual kind. -/
theorem digits_stop :
    ofEnvironment (some "²") = .error (.notDecimal "²") ∧
      run { bareRun with level := some "²" } ["version"] =
        .error (.surprise (.level (.notDecimal "²"))) ∧
      ∃ e, ofEnvironment (some (String.ofList (List.replicate 4301 '1'))) = .error e := by
  have ones : Folded.fold (String.ofList (List.replicate 4301 '1')) = List.replicate 4301 '1' :=
    fold_ones 4301
  refine ⟨rfl, rfl, ofEnvironment_error_iff.mpr ⟨?_, ?_, .inr ?_⟩⟩
  · rw [ones]
    exact List.cons_ne_nil _ _
  · rw [ones]
    intro c inside
    obtain rfl := List.eq_of_mem_replicate inside
    rfl
  · rw [ones, List.length_replicate]
    decide

/-- The same command with a superscript in a number, with a name, with digits of another
script, and with a fraction. -/
theorem sample_level_stops :
    run { bareRun with level := some "1²" } ["version"] =
      .error (.surprise (.level (.notDecimal "1²"))) ∧
      run { bareRun with level := some " warn " } ["version"] = Subcommand.version.run bareRun [] ∧
      run { bareRun with level := some "١٠" } ["version"] = Subcommand.version.run bareRun [] ∧
      Means (Folded.fold "١٠") 10 ∧
      run { bareRun with level := some "½" } ["version"] =
        run { bareRun with level := none } ["version"] := by
  have asks : Asks ["version"] [] fun s => Subcommand.version.run s [] := .command rfl rfl rfl
  obtain ⟨-, refused, -⟩ := level_stops_iff "1²" asks bareRun
  obtain ⟨-, -, -, named, -⟩ := level_stops_iff " warn " asks bareRun
  obtain ⟨-, -, means, numbered, -⟩ := level_stops_iff "١٠" asks bareRun
  obtain ⟨-, -, -, -, nothing⟩ := level_stops_iff "½" asks bareRun
  exact ⟨refused _ rfl, named 30 rfl, numbered 10 rfl, (means 10).mp rfl, nothing rfl⟩

end Shapewright.Command
