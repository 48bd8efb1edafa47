import Mathlib
import Shapewright.Proofs.Result
import Shapewright.Settings.Files

/-!
# Loading a file

A file that is asked for gives a draft, or nothing where many tools share it, or a fault of the
settings, unless it has one of a few defects. Each defect is reported as it is, and nobody up the
line answers for it.
-/
namespace Shapewright.Settings
open Files Result

/-- What stands at the path is a document that describes the table. -/
def Describes (files : View) (path : Path) (table : Toml.Table) : Prop :=
  ∃ bytes text, (files path).bytes? = some bytes ∧ Utf8.decode bytes = .ok text ∧
    Toml.read (Lines.unify text) = .ok table

/-- The table of a shared file in which the settings stand. -/
def OwnPart (table own : Toml.Table) : Prop :=
  ∃ tools, table.lookup "tool" = some (.table tools) ∧ tools.lookup "sharpshape" = some (.table own)

/-- What no file that is loaded should have, and the error that it comes to. -/
inductive Defect (files : View) (path : Path) : LoadError → Prop
  | unnameable : files path = .unnameable → Defect files path .unnameable
  | undecodable {bytes : List UInt8} {fault : Utf8.Fault} : (files path).bytes? = some bytes →
      Utf8.decode bytes = .error fault → Defect files path (.undecodable path.text fault)
  | clash {bytes : List UInt8} {text : String} {c : Toml.Clash} : (files path).bytes? = some bytes →
      Utf8.decode bytes = .ok text → Toml.read (Lines.unify text) = .error (.clash c) →
      Defect files path (.clash path.text c)
  | tools {table : Toml.Table} {v : Toml.Value} :
      path.name = sharedFile → Describes files path table →
      table.lookup "tool" = some v → ¬ v.isTable → Defect files path (.toolsNotATable path.text)

/-- The endings that a command is prepared for: a draft, nothing where a shared file has no part of
its own for the settings, or a fault of the settings. -/
def EndsAsExpected (files : View) (path : Path) : Prop :=
  (∃ draft, loadFile files path = .ok (some draft)) ∨
    (loadFile files path = .ok none ∧ path.name = sharedFile ∧
      ∃ table, Describes files path table ∧ ∀ own, ¬ OwnPart table own) ∨
    ∃ fault, loadFile files path = .error (.settings fault)

section File
variable {files : View} {path : Path}

theorem readTable_of_bytes {bytes : List UInt8} (h : (files path).bytes? = some bytes) :
    readTable files path = decodeTable path bytes := by
  unfold readTable
  split
  · next unnameable =>
    rw [unnameable] at h
    cases h
  · rw [h]

theorem readTable_of_describes {table : Toml.Table} (h : Describes files path table) :
    readTable files path = .ok table := by
  obtain ⟨bytes, text, held, decoded, read⟩ := h
  rw [readTable_of_bytes held, decodeTable, decoded]
  simp only [read]

/-- A table is read, or the fault is one of the settings, or the file has a defect. -/
theorem readTable_cases (files : View) (path : Path) :
    (∃ table, Describes files path table) ∨
      (∃ fault, readTable files path = .error (.settings fault)) ∨
      ∃ e, Defect files path e := by
  cases held : (files path).bytes? with
  | none =>
    by_cases unnameable : files path = .unnameable
    · exact .inr (.inr ⟨_, .unnameable unnameable⟩)
    · refine .inr (.inl ⟨.unreadable path.text, ?_⟩)
      unfold readTable
      split
      · next same => exact absurd same unnameable
      · rw [held]
  | some bytes =>
    cases decoded : Utf8.decode bytes with
    | error fault => exact .inr (.inr ⟨_, .undecodable held decoded⟩)
    | ok text =>
      cases read : Toml.read (Lines.unify text) with
      | ok table => exact .inl ⟨table, bytes, text, held, decoded, read⟩
      | error e =>
        cases e with
        | clash c => exact .inr (.inr ⟨_, .clash held decoded read⟩)
        | malformed =>
          refine .inr (.inl ⟨.badToml path.text, ?_⟩)
          rw [readTable_of_bytes held, decodeTable, decoded]
          simp only [read]

/-- A shared file has a part of its own for the settings, or it has none, or its tools are no
table. -/
theorem sharedTable_cases (path : Path) (table : Toml.Table) :
    (∃ own, sharedTable path table = .ok (some own)) ∨
      (sharedTable path table = .ok none ∧ ∀ own, ¬ OwnPart table own) ∨
      ∃ v, table.lookup "tool" = some v ∧ ¬ v.isTable := by
  cases found : table.lookup "tool" with
  | none =>
    exact .inr (.inl ⟨by simp only [sharedTable, found], fun own => by simp [OwnPart, found]⟩)
  | some v =>
    cases v with
    | table tools =>
      cases part : tools.lookup "sharpshape" with
      | none =>
        refine .inr (.inl ⟨?_, fun own => by simp [OwnPart, found, part]⟩)
        simp only [sharedTable, found, part]
      | some w =>
        cases w with
        | table own => exact .inl ⟨own, by simp only [sharedTable, found, part]⟩
        | _ =>
          refine .inr (.inl ⟨?_, fun own => by simp [OwnPart, found, part]⟩)
          simp only [sharedTable, found, part]
    | _ => exact .inr (.inr ⟨_, rfl, Bool.false_ne_true⟩)

theorem loadFile_of_table {table own : Toml.Table} (read : readTable files path = .ok table)
    (found : ownTable path table = .ok (some own)) :
    (∃ draft, loadFile files path = .ok (some draft)) ∨
      ∃ fault, loadFile files path = .error (.settings fault) := by
  simp only [loadFile, read, found, ok_bind, draftOf]
  cases Draft.ofTable own with
  | ok draft => exact .inl ⟨_, rfl⟩
  | error fault => exact .inr ⟨fault, rfl⟩

/-- A defect is what is reported. -/
theorem loadFile_of_defect {e : LoadError} (h : Defect files path e) :
    loadFile files path = .error e := by
  cases h with
  | unnameable h => simp only [loadFile, readTable, h, error_bind]
  | undecodable held refused =>
    rw [loadFile, readTable_of_bytes held, decodeTable, refused, error_bind]
  | clash held decoded clash =>
    rw [loadFile, readTable_of_bytes held, decodeTable, decoded]
    simp only [clash, error_bind]
  | tools shared described found notTable =>
    rw [loadFile, readTable_of_describes described, ok_bind, ownTable, if_pos shared]
    unfold sharedTable
    rw [found]
    split
    · next same => cases same
    · next same =>
      cases same
      exact absurd rfl notTable
    · rfl

end File

theorem Defect.unexpected {files : View} {path : Path} {e : LoadError} (h : Defect files path e)
    (fault : SettingsError) : e ≠ .settings fault := by
  cases h <;> exact nofun

theorem Defect.not_expected {files : View} {path : Path} {e : LoadError} (h : Defect files path e) :
    ¬ EndsAsExpected files path := by
  have failed := loadFile_of_defect h
  rintro (⟨draft, loaded⟩ | ⟨loaded, -⟩ | ⟨fault, reported⟩)
  · rw [failed] at loaded
    cases loaded
  · rw [failed] at loaded
    cases loaded
  · rw [failed] at reported
    exact h.unexpected fault (Except.error.inj reported)

theorem expected_of_sound {files : View} {path : Path} (sound : ∀ e, ¬ Defect files path e) :
    EndsAsExpected files path := by
  rcases readTable_cases files path with ⟨table, described⟩ | ⟨fault, refused⟩ | ⟨e, defect⟩
  · have read := readTable_of_describes described
    by_cases shared : path.name = sharedFile
    · have own : ownTable path table = sharedTable path table := if_pos shared
      rcases sharedTable_cases path table
        with ⟨part, found⟩ | ⟨none, without⟩ | ⟨v, found, notTable⟩
      · exact (loadFile_of_table read (own.trans found)).imp_right .inr
      · refine .inr (.inl ⟨?_, shared, table, described, without⟩)
        simp only [loadFile, read, own, none, ok_bind]
        rfl
      · exact absurd (.tools shared described found notTable) (sound _)
    · exact (loadFile_of_table read (if_neg shared)).imp_right .inr
  · exact .inr (.inr ⟨fault, by rw [loadFile, refused, error_bind]⟩)
  · exact absurd defect (sound e)

/-- Loading ends as expected exactly for a file without a defect, and a defect is reported as it
is. -/
theorem loadFile_expected_iff (files : View) (path : Path) :
    (EndsAsExpected files path ↔ ∀ e, ¬ Defect files path e) ∧
      ∀ e, Defect files path e → loadFile files path = .error e ∧ ∀ fault, e ≠ .settings fault :=
  ⟨⟨fun expected _ defect => defect.not_expected expected, expected_of_sound⟩,
    fun _ defect => ⟨loadFile_of_defect defect, defect.unexpected⟩⟩

/-- A byte that no text begins with. -/
def undecodableFile : View := fun _ => .file [0xFF]

/-- A shared file whose tools are a number. -/
def numberedTools : View := fun _ => .file "tool = 3\n".toUTF8.toList

theorem defects_unexpected :
    ¬ EndsAsExpected undecodableFile (.ofText "sharpshape.toml") ∧
      ¬ EndsAsExpected numberedTools (.ofText "pyproject.toml") := by
  have refused : Utf8.decode [0xFF] = .error ⟨.badStart, 0, 1, 0xFF⟩ := rfl
  have described : Describes numberedTools (.ofText "pyproject.toml") [("tool", .integer 3)] :=
    ⟨_, "tool = 3\n", rfl, by cbv, by cbv⟩
  exact ⟨(Defect.undecodable rfl refused).not_expected,
    (Defect.tools rfl described rfl Bool.false_ne_true).not_expected⟩

end Shapewright.Settings
