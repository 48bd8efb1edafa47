import Shapewright.Terminal.Console

/-!
# What reaches the terminal

A text without escape characters is printed as it is, with and without colour.
-/
namespace Shapewright

namespace Ansi

theorem stripFrom_of_not_mem {cs : List Char} (h : '\x1b' ∉ cs) : stripFrom [] cs = cs := by
  induction cs with
  | nil => rfl
  | cons c cs ih =>
    obtain ⟨notEscape, rest⟩ := not_or.mp (mt List.mem_cons.mpr h)
    rw [stripFrom, if_neg (Ne.symm notEscape), ih rest]

theorem strip_of_not_mem {text : String} (h : '\x1b' ∉ text.toList) : strip text = text := by
  rw [strip, stripFrom_of_not_mem h, String.ofList_toList]

end Ansi

theorem Console.print_of_not_mem (c : Console) {text : String} (h : '\x1b' ∉ text.toList) :
    c.print text false = ⟨text, ""⟩ := by
  have shown : c.shown text false = text := by
    simp only [Console.shown, Bool.false_eq_true, if_false, Ansi.strip_of_not_mem h, ite_self]
  rw [Console.print, shown]

end Shapewright
