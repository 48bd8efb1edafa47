import Shapewright.Command.Arguments
import Shapewright.Command.Failure
import Shapewright.Diagnostics.Level
import Shapewright.Number.Decimal
import Shapewright.Settings.Files
import Shapewright.Terminal.Console

/-!
# Trouble

Everything that can keep a command from its result: wrong arguments, files that cannot be used,
failures of the parts it is made of, and surprises that no command answers for.
-/
namespace Shapewright.Command
open Files

/-- Why a file cannot be opened for writing. -/
inductive Obstacle where
  | noDirectory
  | blocked
  | isDirectory
  | overlong
  deriving DecidableEq, Repr

def Obstacle.message : Obstacle → String
  | .noDirectory => "[Errno 2] No such file or directory"
  | .blocked => "[Errno 20] Not a directory"
  | .isDirectory => "[Errno 21] Is a directory"
  | .overlong => "[Errno 36] File name too long"

/-- The words of the system about one file. -/
def Obstacle.about (o : Obstacle) (path : Path) : String :=
  o.message ++ ": " ++ Quoted.quote path.text

/-- Trouble that no command answers for. -/
inductive Surprise where
  | level (e : Diagnostics.LevelError)
  | settings (e : Settings.LoadError)
  | input (fault : Utf8.Fault)
  | number (e : Decimal.TooLong)
  | unnameable
  | overlong (path : Path)
  deriving DecidableEq, Repr

def Surprise.message : Surprise → String
  | .level e => e.message
  | .settings e => e.message
  | .input fault => fault.message
  | .number e => e.message
  | .unnameable => Settings.LoadError.unnameable.message
  | .overlong path => Obstacle.overlong.about path

inductive Trouble where
  | usage (e : UsageError)
  | contradiction (e : Diagnostics.LevelError)
  | failure (f : Failure)
  | noSettings (path : Path)
  | noDocument (path : Path)
  | unreadable (path : Path)
  | undecodable (path : Path) (fault : Utf8.Fault)
  | unwritable (path : Path) (obstacle : Obstacle)
  | surprise (s : Surprise)
  deriving DecidableEq, Repr

namespace Trouble

def status : Trouble → Status
  | .usage _ => .badArguments
  | .contradiction _ => .contradiction
  | .failure f => f.status
  | .noSettings _ => .notFound
  | .noDocument _ => .notFound
  | .unreadable _ => .inaccessible
  | .undecodable _ _ => .inaccessible
  | .unwritable _ _ => .inaccessible
  | .surprise _ => .failure

def message : Trouble → String
  | .usage e => e.message
  | .contradiction e => e.message
  | .failure f => f.report
  | .noSettings path => "Config file not found: " ++ path.text
  | .noDocument path => "IR document not found: " ++ path.text
  | .unreadable path =>
    "Cannot read " ++ path.text ++ ": " ++ Obstacle.isDirectory.about path
  | .undecodable path fault => path.text ++ " is not valid UTF-8: " ++ fault.message
  | .unwritable path obstacle =>
    "Cannot write " ++ path.text ++ ": " ++ obstacle.about path
  | .surprise s => s.message

/-- The message as it is seen at the terminal. -/
def told (t : Trouble) (c : Console) : String := c.shown t.message false

/-- What is said about trouble at the terminal. -/
def complaint (t : Trouble) (c : Console) : String :=
  (c.error (c.styled Console.errorStyle ("Error: " ++ t.message)) true).err

end Trouble

end Shapewright.Command
