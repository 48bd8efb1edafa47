/-!
# Layout

Source text is laid out by a small language of operations. A writer carries the current level; an
operation that opens a level gives it back however it ends, so operations can be nested freely. What
is written is a list of lines with their levels, which becomes text only at the end.
-/
namespace Shapewright.Layout

inductive Op where
  | line (text : String)
  | lines (texts : List String)
  | blank
  /-- A header, if any, and a body in braces one level deeper. -/
  | block (header : Option String) (body : List Op)
  | indented (body : List Op)
  /-- Parts with one blank line between any two. -/
  | separated (parts : List (List Op))
  /-- Notes the current level. -/
  | level
  /-- Gives up; nothing more is done up to the nearest `attempt`. -/
  | raise
  /-- Goes on after the body even when it gives up. -/
  | attempt (body : List Op)
  deriving Repr

structure Line where
  level : Nat
  text : String
  deriving DecidableEq, Repr

inductive Note where
  | level (n : Nat)
  | caught
  deriving DecidableEq, Repr

/-- What was written and noted stands latest first. -/
structure Writer where
  level : Nat := 0
  written : List Line := []
  noted : List Note := []
  deriving DecidableEq, Repr

inductive Ending where
  | done
  | raised
  deriving DecidableEq, Repr

/-- A blank line has no level. -/
def Writer.line (w : Writer) (text : String) : Writer :=
  { w with written := (if text.isEmpty then ⟨0, ""⟩ else ⟨w.level, text⟩) :: w.written }

def Writer.note (w : Writer) (n : Note) : Writer := { w with noted := n :: w.noted }

def Writer.lines (w : Writer) : List Line := w.written.reverse

def Writer.notes (w : Writer) : List Note := w.noted.reverse

def Writer.indent (w : Writer) : Writer := { w with level := w.level + 1 }

def Writer.dedent (w : Writer) : Writer := { w with level := w.level - 1 }

mutual
def Op.run (w : Writer) : Op → Writer × Ending
  | .line text => (w.line text, .done)
  | .lines texts => (texts.foldl Writer.line w, .done)
  | .blank => (w.line "", .done)
  | .block header body =>
    let w := match header with
      | some text => w.line text
      | none => w
    match runAll (w.line "\x7b").indent body with
    | (w, .done) => (w.dedent.line "\x7d", .done)
    | (w, .raised) => (w.dedent, .raised)
  | .indented body =>
    let (w, ending) := runAll w.indent body
    (w.dedent, ending)
  | .separated parts => runParts true w parts
  | .level => (w.note (.level w.level), .done)
  | .raise => (w, .raised)
  | .attempt body =>
    match runAll w body with
    | (w, .done) => (w, .done)
    | (w, .raised) => (w.note .caught, .done)

def runAll (w : Writer) : List Op → Writer × Ending
  | [] => (w, .done)
  | op :: ops =>
    match op.run w with
    | (w, .done) => runAll w ops
    | (w, .raised) => (w, .raised)

def runParts (first : Bool) (w : Writer) : List (List Op) → Writer × Ending
  | [] => (w, .done)
  | part :: parts =>
    match runAll (if first then w else w.line "") part with
    | (w, .done) => runParts false w parts
    | (w, .raised) => (w, .raised)
end

/-- A line as text: one `unit` per level before it. -/
def Line.render (unit : String) (l : Line) : String :=
  String.join (List.replicate l.level unit) ++ l.text

/-- Lines are joined, and the last one is ended too, by the same line end. -/
def renderLines (unit lineEnd : String) (ls : List Line) : String :=
  lineEnd.intercalate (ls.map (·.render unit)) ++ lineEnd

/-- The lines that operations write from level zero. -/
def linesOf (ops : List Op) : List Line := (runAll {} ops).1.lines

end Shapewright.Layout
