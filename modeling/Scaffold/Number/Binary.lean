/-!
# Binary floating point, exactly

A binary64 number is a sign, a whole significand and a power of two. `decode` reads these off the
bits, so that everything that prints or divides such a number computes with whole numbers.

Comparison, negation and division of two numbers are those of the machine. They are used where the
program uses them, and no theorem rests on what they give.
-/

namespace Scaffold.Number

/-- What a binary64 number is: `± significand · 2 ^ exponent`, an infinity, or no number. -/
inductive Binary where
  | finite (negative : Bool) (significand : Nat) (exponent : Int)
  | infinite (negative : Bool)
  | nan

/-- The parts of a binary64 number. -/
def decode (x : Float) : Binary :=
  let bits := x.toBits.toNat
  let negative := 0x8000000000000000 ≤ bits
  let biased := bits / 0x10000000000000 % 0x800
  let fraction := bits % 0x10000000000000
  if biased = 0x7FF then
    if fraction = 0 then .infinite negative else .nan
  else if biased = 0 then .finite negative fraction (-1074)
  else .finite negative (fraction + 0x10000000000000) (biased - 1075)

/-- The largest whole number not above a finite number; none for the others. -/
def floor? (x : Float) : Option Int :=
  match decode x with
  | .finite negative m e =>
    let whole : Nat := if 0 ≤ e then m * Nat.pow 2 e.toNat else m / Nat.pow 2 (-e).toNat
    let exact : Bool := 0 ≤ e || m % Nat.pow 2 (-e).toNat == 0
    some (if negative then (if exact then -whole else -whole - 1) else whole)
  | _ => none

/-- What is left of a non-negative finite number after taking away `divisor` as often as
possible. The result is exact. -/
def remainder (x : Float) (divisor : Nat) : Float :=
  match decode x with
  | .finite _ m e =>
    if 0 ≤ e then Float.ofNat (m * Nat.pow 2 e.toNat % divisor)
    else (Float.ofNat (m % (divisor * Nat.pow 2 (-e).toNat))).scaleB e
  | _ => 0.0 / 0.0

/-- How often `divisor` goes into a non-negative finite number, in binary64 arithmetic: the
multiple of the divisor is divided, and the quotient, which may be off by a rounding, is taken to
the whole number it stands for. -/
def quotient? (x : Float) (divisor : Nat) : Option Int :=
  let d := Float.ofNat divisor
  let q := (x - remainder x divisor) / d
  (floor? q).map fun n => if q - q.floor > 0.5 then n + 1 else n

/-- `num / den` rounded to the nearest whole number, a half to the even neighbour. -/
def roundDiv (num den : Nat) : Nat :=
  let q := num / den
  let r := num % den
  if 2 * r < den then q else if den < 2 * r then q + 1 else q + q % 2

end Scaffold.Number
