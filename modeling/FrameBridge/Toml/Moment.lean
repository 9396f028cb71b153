import FrameBridge.Text.Reader

/-!
# Dates and times

A moment is a date, a time of day, or a date and a time with or without an
offset.  Only its form and its ranges are checked.
-/

namespace FrameBridge
namespace Toml

open Reader

/-- Reads a number of some decimal digits. -/
def fixedDigits (n : Nat) : Reader Nat := do
  let cs ← exactly n Char.isDigit
  return Nat.ofDigitChars 10 cs 0

/-- Reads a number of two digits within a range. -/
def twoDigits (least greatest : Nat) : Reader Nat := do
  let n ← fixedDigits 2
  if least ≤ n ∧ n ≤ greatest then pure n else failure

/-- The number of days of a month. -/
def daysIn (year month : Nat) : Nat :=
  if month = 2 then
    if year % 4 = 0 ∧ (year % 100 ≠ 0 ∨ year % 400 = 0) then 29 else 28
  else if month = 4 ∨ month = 6 ∨ month = 9 ∨ month = 11 then
    30
  else
    31

def date : Reader Unit := do
  let year ← fixedDigits 4
  let _ ← char '-'
  let month ← twoDigits 1 12
  let _ ← char '-'
  let _ ← twoDigits 1 (daysIn year month)

/-- Reads a time of day; a minute can have a sixty-first second. -/
def timeOfDay : Reader Unit := do
  let _ ← twoDigits 0 23
  let _ ← char ':'
  let _ ← twoDigits 0 59
  let _ ← char ':'
  let _ ← twoDigits 0 60
  let _ ← optional (do let _ ← char '.'; span1 Char.isDigit)

/-- Reads an offset from universal time. -/
def offset : Reader Unit :=
  (do let _ ← satisfying fun c => c == 'Z' || c == 'z') <|>
    (do
      let _ ← satisfying fun c => c == '+' || c == '-'
      let _ ← twoDigits 0 23
      let _ ← char ':'
      let _ ← twoDigits 0 59)

/-- Reads a time behind a date. -/
def timeAfterDate : Reader Unit := do
  let _ ← satisfying fun c => c == 'T' || c == 't' || c == ' '
  timeOfDay
  let _ ← optional offset

def moment : Reader Unit :=
  (do
    date
    let _ ← optional timeAfterDate) <|>
    timeOfDay

end Toml
end FrameBridge
