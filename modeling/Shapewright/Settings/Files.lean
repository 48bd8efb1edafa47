import Shapewright.Files.Tree
import Shapewright.Settings.Table
import Shapewright.Text.Lines
import Shapewright.Text.Utf8
import Shapewright.Toml.Reader

/-!
# Settings in files

Drafts out of files, and the layers of a run: the defaults, the two files of a directory where they
exist, and one more file that is asked for and so has to exist.
-/
namespace Shapewright

namespace Settings
open Files

/-- A file shared by many tools; the settings stand in a table of their own there. -/
def sharedFile : String := "pyproject.toml"

def ownFile : String := "sharpshape.toml"

/-- The first kind is a fault of the settings; the others are not expected. -/
inductive LoadError where
  | settings (e : SettingsError)
  | undecodable (path : String) (fault : Utf8.Fault)
  | unnameable
  | clash (path : String) (c : Toml.Clash)
  | toolsNotATable (path : String)
  deriving DecidableEq, Repr

def LoadError.message : LoadError → String
  | .settings e => e.message
  | .undecodable path fault => path ++ " is not valid UTF-8: " ++ fault.message
  | .unnameable => "embedded null byte"
  | .clash path .repeatedKey => path ++ " gives a key twice"
  | .clash _ .redefinedTable => "Redefinition of an existing table"
  | .toolsNotATable path => path ++ " has a 'tool' that is no table"

def decodeTable (path : Path) (bytes : List UInt8) : Except LoadError Toml.Table :=
  match Utf8.decode bytes with
  | .error fault => .error (.undecodable path.text fault)
  | .ok text =>
    match Toml.read (Lines.unify text) with
    | .ok table => .ok table
    | .error .malformed => .error (.settings (.badToml path.text))
    | .error (.clash c) => .error (.clash path.text c)

def readTable (files : View) (path : Path) : Except LoadError Toml.Table :=
  match files path with
  | .unnameable => .error .unnameable
  | node =>
    match node.bytes? with
    | some bytes => decodeTable path bytes
    | none => .error (.settings (.unreadable path.text))

/-- The settings in a shared file, if it has any. -/
def sharedTable (path : Path) (table : Toml.Table) : Except LoadError (Option Toml.Table) :=
  match table.lookup "tool" with
  | none => .ok none
  | some (.table tools) =>
    match tools.lookup "sharpshape" with
    | some (.table own) => .ok (some own)
    | _ => .ok none
  | some _ => .error (.toolsNotATable path.text)

def ownTable (path : Path) (table : Toml.Table) : Except LoadError (Option Toml.Table) :=
  if path.name = sharedFile then sharedTable path table else .ok (some table)

def draftOf (path : Path) (table : Toml.Table) : Except LoadError Draft :=
  match Draft.ofTable table with
  | .ok draft => .ok { draft with sources := [path.text] }
  | .error e => .error (.settings e)

/-- The draft of one file; a shared file may have none. -/
def loadFile (files : View) (path : Path) : Except LoadError (Option Draft) := do
  let table ← readTable files path
  match ← ownTable path table with
  | some own => return some (← draftOf path own)
  | none => return none

/-- The files of a run, the lowest layer first. -/
def layers (files : View) (directory extra : Option Path) : List Path :=
  let local? := match directory with
    | some d => [d.child sharedFile, d.child ownFile].filter fun p => (files p).isFile
    | none => []
  local? ++ extra.toList

def loadLayers (files : View) (lower : Draft) : List Path → Except LoadError Draft
  | [] => .ok lower
  | path :: paths => do
    match ← loadFile files path with
    | some draft => loadLayers files (lower.layer draft) paths
    | none => loadLayers files lower paths

/-- The defaults with all files of a run laid over them. -/
def load (files : View) (directory extra : Option Path) : Except LoadError Draft :=
  loadLayers files .defaults (layers files directory extra)

/-- The checked settings of a draft. -/
def settle (draft : Draft) : Except LoadError Settings :=
  match draft.freeze with
  | .ok settings => .ok settings
  | .error e => .error (.settings e)

end Settings
end Shapewright
