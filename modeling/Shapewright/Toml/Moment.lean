import Shapewright.Number.Decimal
import Shapewright.Toml.Value

/-!
# Dates and times

The dates and times that a TOML document may hold, checked against the calendar.
-/
namespace Shapewright.Toml
open Decimal

def digits? (cs : List Char) : Option Nat :=
  if !cs.isEmpty && cs.all isDigit then some (ofDigits cs) else none

def isLeap (year : Nat) : Bool := year % 4 == 0 && (year % 100 != 0 || year % 400 == 0)

def daysIn (year month : Nat) : Nat :=
  if month = 2 then (if isLeap year then 29 else 28)
  else if month = 4 || month = 6 || month = 9 || month = 11 then 30 else 31

/-- Year, month and day with hyphens between them. -/
def isDate (cs : List Char) : Bool :=
  match cs with
  | [y₁, y₂, y₃, y₄, '-', m₁, m₂, '-', d₁, d₂] =>
    match digits? [y₁, y₂, y₃, y₄], digits? [m₁, m₂], digits? [d₁, d₂] with
    | some y, some m, some d => 1 ≤ y && 1 ≤ m && m ≤ 12 && 1 ≤ d && d ≤ daysIn y m
    | _, _, _ => false
  | _ => false

/-- Seconds behind the minutes, with a fraction or without, or nothing. -/
def isSeconds (cs : List Char) : Bool :=
  match cs with
  | [] => true
  | ':' :: s₁ :: s₂ :: rest =>
    (digits? [s₁, s₂]).any (· < 60) &&
      match rest with
      | [] => true
      | '.' :: fraction => (digits? fraction).isSome
      | _ => false
  | _ => false

/-- Hours and minutes, and seconds where they are given. -/
def isTime (cs : List Char) : Bool :=
  match cs with
  | h₁ :: h₂ :: ':' :: m₁ :: m₂ :: rest =>
    (digits? [h₁, h₂]).any (· < 24) && (digits? [m₁, m₂]).any (· < 60) && isSeconds rest
  | _ => false

def isZone (cs : List Char) : Bool :=
  match cs with
  | [] => true
  | ['Z'] => true
  | ['z'] => true
  | [sign, h₁, h₂, ':', m₁, m₂] =>
    (sign = '+' || sign = '-') && (digits? [h₁, h₂]).any (· < 24) && (digits? [m₁, m₂]).any (· < 60)
  | _ => false

/-- A time with the distance of its zone behind it. -/
def isZonedTime (cs : List Char) : Bool :=
  let time := cs.takeWhile fun c => isDigit c || c = ':' || c = '.'
  isTime time && isZone (cs.drop time.length)

/-- A date and a time of that date, with a letter or a space between them. Here the digits of the
year may be of any script. -/
def isDateTime (cs : List Char) : Bool :=
  let date := (cs.take 4).map plain ++ (cs.drop 4).take 6
  match cs.drop 10 with
  | separator :: time =>
    (separator = 'T' || separator = 't' || separator = ' ') && isDate date && isZonedTime time
  | [] => false

end Shapewright.Toml
