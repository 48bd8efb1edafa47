import Shapewright.Terminal.Style

/-!
# Console

What is said to the person at the terminal, on two streams. Without colour no sequence reaches them.
-/
namespace Shapewright

structure Console where
  colour : Bool
  deriving DecidableEq, Repr

namespace Console

/-- What one statement adds to each stream. -/
structure Said where
  out : String := ""
  err : String := ""
  deriving DecidableEq, Repr

def shown (c : Console) (text : String) (lineEnd : Bool) : String :=
  let whole := if lineEnd then text ++ "\n" else text
  if c.colour then whole else Ansi.strip whole

def print (c : Console) (text : String) (lineEnd : Bool) : Said := ⟨c.shown text lineEnd, ""⟩

def warningStyle : Style := { foreground := some (.plain .yellow) }

def errorStyle : Style := { foreground := some (.bright .red) }

def warn (c : Console) (text : String) (lineEnd : Bool) : Said :=
  ⟨"", c.shown (warningStyle.apply text) lineEnd⟩

def error (c : Console) (text : String) (lineEnd : Bool) : Said :=
  ⟨"", c.shown (errorStyle.apply text) lineEnd⟩

/-- Without colour the text is left alone, sequences and all. -/
def styled (c : Console) (style : Style) (text : String) : String :=
  if c.colour then style.apply text else text

end Console
end Shapewright
