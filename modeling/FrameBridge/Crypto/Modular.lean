/-!
# Arithmetic modulo a number

Powers modulo a number are found by squaring.  Modulo a prime number, powers
give inverses and, where the prime is three more than a multiple of four,
square roots.
-/

namespace FrameBridge
namespace Modular

def power (m b e : Nat) : Nat :=
  if e = 0 then
    1 % m
  else
    let half := power m (b * b % m) (e / 2)
    if e % 2 = 1 then b * half % m else half
  termination_by e

def sub (m a b : Nat) : Nat :=
  (a + (m - b % m)) % m

/-- The inverse modulo a prime number of what is no multiple of it. -/
def inverse (p a : Nat) : Nat :=
  power p a (p - 2)

/-- A square root modulo a prime number that is three more than a multiple of
four, if there is one. -/
def root? (p a : Nat) : Option Nat :=
  let r := power p a ((p + 1) / 4)
  if r * r % p = a % p then some r else none

end Modular
end FrameBridge
