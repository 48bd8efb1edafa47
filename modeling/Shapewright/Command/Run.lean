import Shapewright.Command.Request
import Shapewright.Command.Trouble
import Shapewright.Document.Reader
import Shapewright.Source.Render
import Shapewright.Toml.Printer

/-!
# Running commands

A command looks at its surroundings and comes to an outcome. It either succeeds, with text to print
and at most one file to write, or it is in trouble and leaves everything as it was.
-/
namespace Shapewright.Command
open Files

def version : String := "0.1.0"

/-- All that a command can look at. Settings are looked for in `directory`. -/
structure Surroundings where
  files : View
  directory : Path := .ofText ""
  input : List UInt8 := []
  level : Option String := none
  colour : Bool := false

/-- What a command that succeeds prints, and the file that it writes. -/
structure Success where
  printed : String
  written : Option (Path × String) := none
  deriving DecidableEq, Repr

abbrev Outcome := Except Trouble Success

def usage {α : Type} : Except UsageError α → Except Trouble α
  | .ok a => .ok a
  | .error e => .error (.usage e)

def requested {α : Type} : Except RequestError α → Except Trouble α
  | .ok a => .ok a
  | .error (.usage e) => .error (.usage e)
  | .error .unnameable => .error (.surprise .unnameable)

def Surroundings.console (s : Surroundings) : Console := ⟨s.colour⟩

def Surroundings.printed (s : Surroundings) (text : String) : String :=
  (s.console.print text true).out

def help (s : Surroundings) (topic : Topic) : Success := { printed := s.printed (helpPage topic) }

/-- What is said when no command is given. -/
def hint (s : Surroundings) : Success :=
  { printed := s.printed "Hint: use 'sharpshape render IR_FILE' to generate C# code." ++
      s.printed "" ++ s.printed (helpPage none) }

def loading {α : Type} : Except Settings.LoadError α → Except Trouble α
  | .ok a => .ok a
  | .error (.settings e) => .error (.failure (.ofSettings e))
  | .error e => .error (.surprise (.settings e))

/-- The settings for a run: the layers of files, and over them what was chosen on the command
line. -/
def resolveSettings (s : Surroundings) (config : Option Path) (choices : Draft) :
    Except Trouble Settings := do
  if let some path := config then
    if s.files path = .overlong then throw (.surprise (.overlong path))
    if !(s.files path).isFile then throw (.noSettings path)
  let draft ← loading (Settings.load s.files (some s.directory) config)
  loading (Settings.settle (draft.layer choices))

def decodeFile (path : Path) (bytes : List UInt8) : Except Trouble String :=
  match Utf8.decode bytes with
  | .ok text => .ok (Lines.unify text)
  | .error fault => .error (.undecodable path fault)

def readFile (s : Surroundings) (path : Path) : Except Trouble String :=
  match s.files path with
  | .missing => .error (.noDocument path)
  | .blocked => .error (.noDocument path)
  | .unnameable => .error (.noDocument path)
  | .overlong => .error (.surprise (.overlong path))
  | .directory => .error (.unreadable path)
  | .file bytes => decodeFile path bytes
  | .sink => decodeFile path []

/-- A dash stands for the standard input. -/
def readInput (s : Surroundings) (document : String) : Except Trouble String :=
  if document = "-" then
    match Utf8.decode s.input with
    | .ok text => .ok (Lines.unify text)
    | .error fault => .error (.surprise (.input fault))
  else readFile s (.ofText document)

def loadGraph (text : String) : Except Trouble Graph :=
  match Document.readText text with
  | .ok g => .ok g
  | .error (.fault f) => .error (.failure (.ofFault f))
  | .error (.tooLong e) => .error (.surprise (.number e))

def renderSource (g : Graph) (settings : Settings) : Except Trouble String :=
  match Source.render g settings with
  | .ok text => .ok text
  | .error e => .error (.failure (.ofEmit e))

/-- A file can be made where there is none, in a directory that is there. -/
def obstacle? (files : View) (path : Path) : Option Obstacle :=
  match files path with
  | .file _ => none
  | .sink => none
  | .directory => some .isDirectory
  | .blocked => some .blocked
  | .overlong => some .overlong
  | .unnameable => some .noDirectory
  | .missing =>
    match files path.parent with
    | .directory => none
    | .file _ => some .blocked
    | .sink => some .blocked
    | .blocked => some .blocked
    | .overlong => some .overlong
    | .unnameable => some .noDirectory
    | .missing => some .noDirectory

def delivered (s : Surroundings) (source : String) : Option Path → Outcome
  | none => .ok { printed := (s.console.print source false).out }
  | some path =>
    match obstacle? s.files path with
    | none => .ok { printed := "", written := some (path, source) }
    | some obstacle => .error (.unwritable path obstacle)

def runRender (s : Surroundings) (words : List String) : Outcome := do
  let some request ← requested (readRender s.files words) | return help s (some .render)
  let settings ← resolveSettings s request.config request.choices
  let text ← readInput s request.document
  let g ← loadGraph text
  let source ← renderSource g settings
  delivered s source request.output

def runConfig (s : Surroundings) (words : List String) : Outcome := do
  let some config ← requested (readConfig s.files words) | return help s (some .config)
  let settings ← resolveSettings s config {}
  let sources := settings.sources.map fun path => s.printed ("# source: " ++ path)
  return { printed := String.join sources ++
    (s.console.print (Toml.render settings.toTable) false).out }

def versionStyle : Style := { effects := [(.bold, true)] }

def runVersion (s : Surroundings) (words : List String) : Outcome := do
  let some asJson ← usage (readVersion words) | return help s (some .version)
  let text := if asJson then "\x7b\"version\": \"" ++ version ++ "\"\x7d"
    else s.console.styled versionStyle version
  return { printed := s.printed text }

def Subcommand.run (c : Subcommand) (s : Surroundings) (words : List String) : Outcome :=
  match c with
  | .render => runRender s words
  | .config => runConfig s words
  | .version => runVersion s words

/-- The level of diagnostics; what the environment says wins over the options. -/
def resolveLevel (s : Surroundings) (given : List (Given GroupOption)) : Except Trouble Int :=
  match Diagnostics.ofEnvironment s.level with
  | .error e => .error (.surprise (.level e))
  | .ok (some level) => .ok level
  | .ok none =>
    match Diagnostics.ofCounts (count given .verbose) (count given .quiet) with
    | .ok level => .ok level
    | .error e => .error (.contradiction e)

/-- A word that is no command may still be an option that asks for help. -/
def unknownCommand (s : Surroundings) (name : String) (words : List String) : Outcome := do
  let (given, _) ← usage (readArguments groupForms false (name :: words))
  if 0 < count given .help then return help s none
  throw (.usage (.unknownCommand name))

/-- Runs the command that the words of a command line describe. -/
def run (s : Surroundings) (words : List String) : Outcome := do
  let (given, others) ← usage (readArguments groupForms false words)
  if 0 < count given .help then return help s none
  match others with
  | [] =>
    let _ ← resolveLevel s given
    return hint s
  | name :: words =>
    match Subcommand.ofName? name with
    | none => unknownCommand s name words
    | some c =>
      let _ ← resolveLevel s given
      c.run s words

/-- How a run ends: the exit code, what both streams got, and the file to write. -/
structure Ending where
  code : Nat
  out : String := ""
  err : String := ""
  written : Option (Path × String) := none
  deriving DecidableEq, Repr

def Surroundings.ending (s : Surroundings) : Outcome → Ending
  | .ok done => { code := Status.success.code, out := done.printed, written := done.written }
  | .error trouble => { code := trouble.status.code, err := trouble.complaint s.console }

/-- The files that a command names. -/
def namedPaths (c : Subcommand) (words : List String) : List Path :=
  match c with
  | .render =>
    match readRender (fun _ => .missing) words with
    | .ok (some r) =>
      .ofText r.document :: r.config.toList ++ r.output.toList ++ r.output.toList.map Path.parent
    | _ => []
  | .config =>
    match readConfig (fun _ => .missing) words with
    | .ok (some config) => config.toList
    | _ => []
  | .version => []

/-- All paths that a run may look at. -/
def pathsOf (directory : Path) (words : List String) : List Path :=
  let named :=
    match readArguments groupForms false words with
    | .ok (_, name :: words) => (Subcommand.ofName? name).toList.flatMap (namedPaths · words)
    | _ => []
  directory.child Settings.sharedFile :: directory.child Settings.ownFile :: named

end Shapewright.Command
