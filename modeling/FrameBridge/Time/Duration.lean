/-!
# Durations

A duration is a number of seconds below 2^64 and a number of nanoseconds below
one second.  It is shown in the greatest unit in which it is at least one, with
the digits of its fraction that are needed.
-/

namespace FrameBridge

/-- A length of time in whole seconds and nanoseconds of the last second. -/
structure Duration where
  secs : UInt64
  nanos : Nat
  deriving DecidableEq

namespace Duration

section Units

def nanosPerSec : Nat := 1000000000

/-- The duration of some seconds and nanoseconds, unless it is too long. -/
def ofParts? (secs nanos : Nat) : Option Duration :=
  let total := secs + nanos / nanosPerSec
  if total < UInt64.size then
    some ⟨UInt64.ofNat total, nanos % nanosPerSec⟩
  else
    none

def ofMicros (micros : UInt64) : Duration :=
  ⟨micros / 1000000, micros.toNat % 1000000 * 1000⟩

/-- The whole microseconds of a duration, at most 2^64 - 1. -/
def toMicros (d : Duration) : UInt64 :=
  UInt64.ofNat (min (d.secs.toNat * 1000000 + d.nanos / 1000) (UInt64.size - 1))

/-- The milliseconds of a duration as a binary fraction. -/
def toMillis (d : Duration) : Float :=
  (Float.ofNat d.secs.toNat + Float.ofNat d.nanos / 1e9) * 1000.0

end Units

section Printing

/-- The digits of a fraction with a number of places, without the zeros at
its end. -/
def fractionDigits (places fraction : Nat) : List Char :=
  let digits := Nat.toDigits 10 fraction
  let padded := List.replicate (places - digits.length) '0' ++ digits
  (padded.reverse.dropWhile (· == '0')).reverse

/-- The written form of a whole number and a fraction in some unit. -/
def renderIn (unit : String) (whole places fraction : Nat) : String :=
  let point := if fraction = 0 then [] else '.' :: fractionDigits places fraction
  String.ofList (Nat.toDigits 10 whole ++ point ++ unit.toList)

def render (d : Duration) : String :=
  if 0 < d.secs then
    renderIn "s" d.secs.toNat 9 d.nanos
  else if 1000000 ≤ d.nanos then
    renderIn "ms" (d.nanos / 1000000) 6 (d.nanos % 1000000)
  else if 1000 ≤ d.nanos then
    renderIn "µs" (d.nanos / 1000) 3 (d.nanos % 1000)
  else
    renderIn "ns" d.nanos 0 0

end Printing

end Duration
end FrameBridge
