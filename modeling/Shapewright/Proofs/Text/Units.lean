import Mathlib.Data.List.Chain
import Shapewright.Text.Units

/-!
# Units and text

Units are read back into text, a high half and a low half after it as one character. Text in which
no two such halves stand next to each other is read back as it was.
-/
namespace Shapewright

namespace CodePoint

/-- Half of a pair that waits for the other half. -/
def isHigh : CodePoint → Bool
  | .char _ => false
  | .half n => n.val < 0x400

def isLow : CodePoint → Bool
  | .char _ => false
  | .half n => 0x400 ≤ n.val

@[simp] theorem ofNumber_number (p : CodePoint) : ofNumber p.number = p := by
  cases p with
  | char c =>
    have valid : c.toNat < 0xD800 ∨ 0xDFFF < c.toNat ∧ c.toNat < 0x110000 := c.valid
    rw [number, ofNumber, dif_neg (by omega), Char.ofNat_toNat]
  | half n =>
    rw [number, ofNumber, dif_pos (by omega)]
    exact congrArg half (Fin.ext (by simp))

end CodePoint

/-- No two halves that make a pair stand apart as halves. -/
def Text.IsPaired (t : Text) : Prop := t.points.IsChain fun a b => a.isHigh → b.isLow = false

/-- Characters alone make no pairs. -/
@[simp] theorem Text.isPaired_ofString (s : String) : (ofString s).IsPaired := by
  rw [IsPaired, ofString, ofChars, List.isChain_map]
  exact List.Pairwise.isChain
    (List.pairwise_of_forall fun _ _ high => absurd high (by simp [CodePoint.isHigh]))

namespace Units

def isHigh (u : Nat) : Bool := 0xD800 ≤ u && u < 0xDC00

def isLow (u : Nat) : Bool := 0xDC00 ≤ u && u < 0xE000

/-- The code points that units stand for. -/
def toPoints : List Nat → List CodePoint
  | [] => []
  | [u] => [.ofNumber u]
  | u :: v :: us =>
    if isHigh u && isLow v
      then .ofNumber (0x10000 + (u - 0xD800) * 0x400 + (v - 0xDC00)) :: toPoints us
    else .ofNumber u :: toPoints (v :: us)

def toText (us : List Nat) : Text := ⟨toPoints us⟩

theorem toPoints_cons {u : Nat} {us : List Nat}
    (alone : isHigh u → ∀ v, us.head? = some v → isLow v = false) :
    toPoints (u :: us) = .ofNumber u :: toPoints us := by
  cases us with
  | nil => rfl
  | cons v us =>
    have notPair : (isHigh u && isLow v) = false := by
      cases high : isHigh u with
      | false => rfl
      | true => exact alone high v rfl
    rw [toPoints, notPair]
    rfl

theorem toPoints_ofChar (c : Char) (us : List Nat) :
    toPoints (ofChar c ++ us) = .char c :: toPoints us := by
  have valid : c.toNat < 0xD800 ∨ 0xDFFF < c.toNat ∧ c.toNat < 0x110000 := c.valid
  simp only [ofChar]
  split
  · have notHigh : ¬ isHigh c.toNat := by
      simp only [isHigh, Bool.and_eq_true, decide_eq_true_eq]
      omega
    rw [List.singleton_append, toPoints_cons fun high => absurd high notHigh]
    exact congrArg (· :: toPoints us) (CodePoint.ofNumber_number (.char c))
  · have high : isHigh (0xD800 + (c.toNat - 0x10000) / 0x400) := by
      simp only [isHigh, Bool.and_eq_true, decide_eq_true_eq]
      omega
    have low : isLow (0xDC00 + (c.toNat - 0x10000) % 0x400) := by
      simp only [isLow, Bool.and_eq_true, decide_eq_true_eq]
      omega
    have whole : 0x10000 + (0xD800 + (c.toNat - 0x10000) / 0x400 - 0xD800) * 0x400 +
        (0xDC00 + (c.toNat - 0x10000) % 0x400 - 0xDC00) = (CodePoint.char c).number := by
      rw [CodePoint.number]
      omega
    rw [List.cons_append, List.cons_append, List.nil_append, toPoints, high, low, whole,
      CodePoint.ofNumber_number]
    rfl

/-- Text that begins with a low unit begins with a low half. -/
theorem isLow_of_head? {ps : List CodePoint} {u : Nat} (first : (ps.flatMap ofPoint).head? = some u)
    (low : isLow u) : ∃ p, ps.head? = some p ∧ p.isLow := by
  simp only [isLow, Bool.and_eq_true, decide_eq_true_eq] at low
  cases ps with
  | nil => cases first
  | cons p ps =>
    refine ⟨p, rfl, ?_⟩
    cases p with
    | char c =>
      have valid : c.toNat < 0xD800 ∨ 0xDFFF < c.toNat ∧ c.toNat < 0x110000 := c.valid
      simp only [List.flatMap_cons, ofPoint, ofChar] at first
      split at first <;> simp only [List.cons_append, List.head?_cons, Option.some.injEq]
        at first <;> omega
    | half n =>
      have start : 0xD800 + n.val = u := by
        simpa [ofPoint] using first
      simp only [CodePoint.isLow, decide_eq_true_eq]
      omega

theorem toPoints_ofPoint {p : CodePoint} {ps : List CodePoint}
    (apart : ∀ q, ps.head? = some q → p.isHigh → q.isLow = false) :
    toPoints (ofPoint p ++ ps.flatMap ofPoint) = p :: toPoints (ps.flatMap ofPoint) := by
  cases p with
  | char c => exact toPoints_ofChar c _
  | half n =>
    have alone : isHigh (0xD800 + n.val) → ∀ v, (ps.flatMap ofPoint).head? = some v →
        isLow v = false := by
      intro high v first
      refine Bool.eq_false_iff.mpr fun low => ?_
      obtain ⟨q, here, lowHalf⟩ := isLow_of_head? first low
      have waits : (CodePoint.half n).isHigh := by
        simp only [isHigh, Bool.and_eq_true, decide_eq_true_eq] at high
        simp only [CodePoint.isHigh, decide_eq_true_eq]
        omega
      rw [apart q here waits] at lowHalf
      cases lowHalf
    rw [ofPoint, List.singleton_append, toPoints_cons alone]
    exact congrArg (· :: toPoints (ps.flatMap ofPoint)) (CodePoint.ofNumber_number (.half n))

/-- Units give back the text that they were made of. -/
theorem toText_ofText {t : Text} (paired : t.IsPaired) : toText (ofText t) = t := by
  have points : ∀ ps : List CodePoint, ps.IsChain (fun a b => a.isHigh → b.isLow = false) →
      toPoints (ps.flatMap ofPoint) = ps := by
    intro ps chain
    induction ps with
    | nil => rfl
    | cons p ps ih =>
      obtain ⟨apart, rest⟩ := List.isChain_cons.mp chain
      rw [List.flatMap_cons, toPoints_ofPoint apart, ih rest]
  exact congrArg Text.mk (points t.points paired)

end Units
end Shapewright
