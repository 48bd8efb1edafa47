import Shapewright.Command.Catalog
import Shapewright.Files.Tree
import Shapewright.Settings.Basic
import Shapewright.Number.Decimal

/-!
# Requests

What a command is asked to do, read off its arguments. A request for help is answered before
anything else is looked at, and the options are looked at in the order in which they first come.
-/
namespace Shapewright.Command
open Files

/-- A text with single low lines between its digits. -/
def digits? : List Char → Option (List Char)
  | [] => some []
  | '_' :: c :: cs => if c = '_' then none else digits? (c :: cs)
  | c :: cs => if c = '_' then none else (digits? cs).map (c :: ·)

/-- Not too many digits of any script, with single low lines between them. -/
def natural? (cs : List Char) : Option Nat :=
  if cs.isEmpty || cs.head? == some '_' then none
  else do
    let digits := (← digits? cs).map Decimal.plain
    if digits.all Decimal.isDigit then (Decimal.read digits).toOption else none

def integer? (text : String) : Option Int :=
  match Folded.trim Decimal.isPadding text.toList with
  | '+' :: cs => (natural? cs).map (fun n => (n : Int))
  | '-' :: cs => (natural? cs).map (fun n => -(n : Int))
  | cs => (natural? cs).map (fun n => (n : Int))

/-- Wrong arguments, or a path that nothing can have. -/
inductive RequestError where
  | usage (e : UsageError)
  | unnameable
  deriving DecidableEq, Repr

def badValue {α : Type} (option text : String) : Except RequestError α :=
  .error (.usage (.badValue option text))

/-- A width is no less than zero. -/
def readWidth (text : String) : Except RequestError Int :=
  match integer? text with
  | some n => if n < 0 then badValue "--indent-width" text else .ok n
  | none => badValue "--indent-width" text

/-- Names of line ends are exact here. -/
def readLineEnd (text : String) : Except RequestError LineEnd :=
  if text = LineEnd.lf.name then .ok .lf
  else if text = LineEnd.crlf.name then .ok .crlf
  else badValue "--newline" text

/-- A file may be missing but is no directory. -/
def readPath (files : View) (option text : String) : Except RequestError Path :=
  let path := Path.ofText text
  match files path with
  | .unnameable => .error .unnameable
  | .directory => if text.isEmpty then .ok path else badValue option text
  | _ => .ok path

def readOptional {α : Type} (read : String → Except RequestError α) :
    Option String → Except RequestError (Option α)
  | none => .ok none
  | some text => (read text).map some

/-- The first fault among options, in the order in which they first come. -/
def inOrder {α : Type} [BEq α] (given : List (Given α))
    (faults : List (α × Except RequestError Unit)) : Except RequestError Unit :=
  (given.map (·.option)).forM fun option => (faults.lookup option).getD (.ok ())

def checked {α : Type} (read : Except RequestError α) : Except RequestError Unit :=
  read.map fun _ => ()

def RequestError.ofUsage {α : Type} : Except UsageError α → Except RequestError α
  | .ok a => .ok a
  | .error e => .error (.usage e)

/-- The last of the two opposite flags counts. -/
def headerChoice (given : List (Given RenderOption)) : Option Bool :=
  (given.reverse.find? fun g => g.option = .header || g.option = .noHeader).map
    (·.option == .header)

/-- `config` lies over the files of the directory, and `choices` over all files. -/
structure RenderRequest where
  document : String
  output : Option Path
  config : Option Path
  choices : Draft

def only (name : String) : List String → Except UsageError String
  | [] => .error (.noArgument name)
  | [word] => .ok word
  | _ :: word :: _ => .error (.extraArgument word)

def noOther : List String → Except UsageError Unit
  | [] => .ok ()
  | word :: _ => .error (.extraArgument word)

/-- There is no request where help is asked for. -/
def readRender (files : View) (words : List String) :
    Except RequestError (Option RenderRequest) := do
  let (given, others) ← RequestError.ofUsage (readArguments renderForms true words)
  if 0 < count given .help then return none
  let output := readOptional (readPath files "--output") (value? given .output)
  let indentWidth := readOptional readWidth (value? given .indentWidth)
  let lineEnd := readOptional readLineEnd (value? given .lineEnd)
  let config := readOptional (readPath files "--config") (value? given .config)
  inOrder given [(.output, checked output), (.indentWidth, checked indentWidth),
    (.lineEnd, checked lineEnd), (.config, checked config)]
  let document ← RequestError.ofUsage (only "IR_FILE" others)
  let choices : Draft := {
    namespaceName := value? given .namespaceName
    headerComment := headerChoice given
    indentWidth := ← indentWidth
    lineEnd := ← lineEnd }
  return some { document, output := ← output, config := ← config, choices }

/-- The settings file asked for, if any. -/
def readConfig (files : View) (words : List String) :
    Except RequestError (Option (Option Path)) := do
  let (given, others) ← RequestError.ofUsage (readArguments configForms true words)
  if 0 < count given .help then return none
  let config ← readOptional (readPath files "--config") (value? given .config)
  RequestError.ofUsage (noOther others)
  return some config

/-- Whether the version is asked for as JSON. -/
def readVersion (words : List String) : Except UsageError (Option Bool) := do
  let (given, others) ← readArguments versionForms true words
  if 0 < count given .help then return none
  noOther others
  return some (0 < count given .json)

end Shapewright.Command
