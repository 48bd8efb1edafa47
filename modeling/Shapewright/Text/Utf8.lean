import Shapewright.Text.Hex

/-!
# UTF-8

Text out of bytes. A sequence is refused at the first byte that cannot continue it, so the bytes
before that one are named in the fault.
-/
namespace Shapewright.Utf8

inductive Reason where
  | badStart
  | badContinuation
  | cutOff
  deriving DecidableEq, Repr

def Reason.message : Reason → String
  | .badStart => "invalid start byte"
  | .badContinuation => "invalid continuation byte"
  | .cutOff => "unexpected end of data"

/-- The refused sequence begins at `position` with the byte `first` and has `count` bytes. -/
structure Fault where
  reason : Reason
  position : Nat
  count : Nat
  first : Nat
  deriving DecidableEq, Repr

def Fault.place (f : Fault) : String :=
  if f.count = 1 then
    "byte 0x" ++ String.ofList (Hex.padded 2 f.first) ++ s!" in position {f.position}"
  else
    let last := f.position + f.count - 1
    s!"bytes in position {f.position}-{last}"

def Fault.message (f : Fault) : String :=
  "'utf-8' codec can't decode " ++ f.place ++ ": " ++ f.reason.message

/-- A sequence that has begun: its first byte and the number of bytes read, the bits collected, the
number of bytes to come and the bounds of the next one. -/
structure Sequence where
  first : Nat
  length : Nat
  value : Nat
  missing : Nat
  low : Nat
  high : Nat

/-- The bounds keep out longer forms than needed, surrogates and values that are too large. -/
def start? (b : Nat) : Option Sequence :=
  if 0xC2 ≤ b ∧ b ≤ 0xDF then some ⟨b, 1, b - 0xC0, 1, 0x80, 0xBF⟩
  else if b = 0xE0 then some ⟨b, 1, 0, 2, 0xA0, 0xBF⟩
  else if b = 0xED then some ⟨b, 1, 0xD, 2, 0x80, 0x9F⟩
  else if 0xE1 ≤ b ∧ b ≤ 0xEF then some ⟨b, 1, b - 0xE0, 2, 0x80, 0xBF⟩
  else if b = 0xF0 then some ⟨b, 1, 0, 3, 0x90, 0xBF⟩
  else if b = 0xF4 then some ⟨b, 1, 4, 3, 0x80, 0x8F⟩
  else if 0xF1 ≤ b ∧ b ≤ 0xF3 then some ⟨b, 1, b - 0xF0, 3, 0x80, 0xBF⟩
  else none

def Sequence.accepts (s : Sequence) (b : Nat) : Bool := s.low ≤ b && b ≤ s.high

def Sequence.add (s : Sequence) (b : Nat) : Sequence :=
  ⟨s.first, s.length + 1, 64 * s.value + (b - 0x80), s.missing - 1, 0x80, 0xBF⟩

def Sequence.fault (s : Sequence) (reason : Reason) (position : Nat) : Fault :=
  ⟨reason, position - s.length, s.length, s.first⟩

/-- The characters of the bytes from `position` on, the first of which may belong to a
sequence that has begun before. -/
def decodeFrom (position : Nat) : Option Sequence → List UInt8 → Except Fault (List Char)
  | none, [] => .ok []
  | some s, [] => .error (s.fault .cutOff position)
  | none, b :: bs =>
    if b < 0x80 then (decodeFrom (position + 1) none bs).map (Char.ofNat b.toNat :: ·)
    else
      match start? b.toNat with
      | some s => decodeFrom (position + 1) (some s) bs
      | none => .error ⟨.badStart, position, 1, b.toNat⟩
  | some s, b :: bs =>
    if s.accepts b.toNat then
      let s := s.add b.toNat
      if s.missing = 0 then (decodeFrom (position + 1) none bs).map (Char.ofNat s.value :: ·)
      else decodeFrom (position + 1) (some s) bs
    else .error (s.fault .badContinuation position)

def decode (bytes : List UInt8) : Except Fault String :=
  (decodeFrom 0 none bytes).map String.ofList

end Shapewright.Utf8
