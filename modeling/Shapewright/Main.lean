import Shapewright.Command.Run

/-!
# The program

Looks at everything a command may need, runs the command, and does what it came to.
-/
namespace Shapewright
open Files Command

def nodeAt (path : Path) : IO Node := do
  if !path.isNameable then return .unnameable
  try
    return .file (← IO.FS.readBinFile path.text).toList
  catch
    | .inappropriateType _ 21 _ => return .directory
    | .inappropriateType _ _ _ => return .blocked
    | .invalidArgument _ 36 _ => return .overlong
    | _ => return .missing

def nodesAt (paths : List Path) : IO (List (Path × Node)) :=
  paths.mapM fun path => return (path, ← nodeAt path)

def readAll (stream : IO.FS.Stream) : IO ByteArray := do
  let mut all := ByteArray.empty
  repeat
    let bytes ← stream.read 65536
    if bytes.isEmpty then break
    all := all ++ bytes
  return all

/-- The standard input is read only by those who ask for it. -/
def inputFor (words : List String) : IO (List UInt8) := do
  if words.contains "-" then
    return (← readAll (← IO.getStdin)).toList
  else
    return []

def look (words : List String) : IO Surroundings := do
  let directory := Path.ofText (← IO.currentDir).toString
  let nodes ← nodesAt (pathsOf directory words)
  return {
    files := fun path => (nodes.lookup path).getD .missing
    directory
    input := ← inputFor words
    level := ← IO.getEnv "SHARPSHAPE_LOG_LEVEL"
    colour := ← (← IO.getStdout).isTty }

def finish (e : Ending) : IO UInt32 := do
  IO.print e.out
  IO.eprint e.err
  match e.written with
  | none => return e.code.toUInt32
  | some (path, text) =>
    try
      IO.FS.writeFile path.text text
      return e.code.toUInt32
    catch problem =>
      IO.eprintln ("Error: Cannot write " ++ path.text ++ ": " ++ toString problem)
      return Status.inaccessible.code.toUInt32

def program (words : List String) : IO UInt32 := do
  let s ← look words
  finish (s.ending (Command.run s words))

end Shapewright

def main (words : List String) : IO UInt32 := Shapewright.program words
