import Scaffold.Number.Binary
import Scaffold.Text.Basic

/-!
# Decimal texts of binary numbers

Two ways to write a binary64 number in decimal. `fixed` rounds to a number of places, a half to
the even neighbour. `shortest` writes the fewest digits that read back as the same number; of two
candidates with equally many digits it takes the nearer. It looks at the two neighbours of the
number on the grids of one, two, … seventeen significant digits, and the first grid with a
neighbour inside the rounding interval wins.
-/

namespace Scaffold.Number

/-- A number with a fixed number of decimal places. -/
def fixed (places : Nat) (x : Float) : Text :=
  match decode x with
  | .nan => "nan"
  | .infinite negative => if negative then "-inf" else "inf"
  | .finite negative m e =>
    let scaled := m * Nat.pow 10 places
    let rounded :=
      if 0 ≤ e then scaled * Nat.pow 2 e.toNat else roundDiv scaled (Nat.pow 2 (-e).toNat)
    let whole := Text.ofNat (rounded / Nat.pow 10 places)
    let part := Text.ofNat (rounded % Nat.pow 10 places)
    Text.concat [if negative then "-" else "", whole, ".",
      Text.zeros (places - part.length), part]

/-- A positive number and its rounding interval over one denominator. -/
structure Interval where
  low : Nat
  value : Nat
  high : Nat
  den : Nat
  closed : Bool

/-- The interval of the reals that round to `m · 2 ^ e`, scaled by `10 ^ (-shift)`. The gap below
a power of two is half as wide, except at the smallest exponent. -/
def Interval.of (m : Nat) (e : Int) (shift : Int) : Interval :=
  let below := if m = 0x10000000000000 && -1074 < e then 1 else 2
  let num := Nat.pow 2 (e - 2).toNat * Nat.pow 10 (-shift).toNat
  { low := (4 * m - below) * num, value := 4 * m * num, high := (4 * m + 2) * num,
    den := Nat.pow 2 (2 - e).toNat * Nat.pow 10 shift.toNat, closed := m % 2 == 0 }

/-- Whether the whole number `d` lies in the interval. -/
def Interval.holds (i : Interval) (d : Nat) : Bool :=
  if i.closed then i.low ≤ d * i.den && d * i.den ≤ i.high
  else i.low < d * i.den && d * i.den < i.high

/-- The whole number next to the value that lies in the interval, the nearer one if both do. -/
def Interval.neighbour? (i : Interval) : Option Nat :=
  let below := i.value / i.den
  let gap := i.value % i.den
  match i.holds below, i.holds (below + 1) with
  | true, true => some (if 2 * gap < i.den || (2 * gap == i.den && below % 2 == 0) then below
      else below + 1)
  | true, false => some below
  | false, true => some (below + 1)
  | false, false => none

/-- The exponent of the first significant decimal digit of `m · 2 ^ e`. -/
def leadingExponent (m : Nat) (e : Int) : Int :=
  let guess := (Int.ofNat m.log2 + e) * 30103 / 100000
  let atLeast (k : Int) : Bool :=
    Nat.pow 10 k.toNat * Nat.pow 2 (-e).toNat ≤ m * Nat.pow 2 e.toNat * Nat.pow 10 (-k).toNat
  if !atLeast guess then guess - 1 else if atLeast (guess + 1) then guess + 1 else guess

/-- A decimal `digits · 10 ^ shift` that reads back as `m · 2 ^ e`, with the fewest digits that
do; at least `count` and at most `count + fuel` digits are tried. -/
def shortestFrom (m : Nat) (e : Int) (lead : Int) : (count fuel : Nat) → Nat × Int
  | count, 0 => (((Interval.of m e (lead + 1 - count)).neighbour?).getD 0, lead + 1 - count)
  | count, fuel + 1 =>
    match (Interval.of m e (lead + 1 - count)).neighbour? with
    | some digits => (digits, lead + 1 - count)
    | none => shortestFrom m e lead (count + 1) fuel

/-- The significant digits of a positive number and the exponent of the first of them. -/
def shortestDigits (m : Nat) (e : Int) : Text × Int :=
  let (digits, shift) := shortestFrom m e (leadingExponent m e) 1 16
  let text := Text.ofNat digits
  (Text.trimEnd (· = '0') text, shift + text.length - 1)

/-- The shortest text that reads back. Exponents from -4 to 15 are written positionally, with at
least one digit after the point; the others after one leading digit, with a sign and at least two
digits. -/
def shortest (x : Float) : Text :=
  match decode x with
  | .nan => "nan"
  | .infinite negative => if negative then "-inf" else "inf"
  | .finite negative 0 _ => if negative then "-0.0" else "0.0"
  | .finite negative m e =>
    let (digits, lead) := shortestDigits m e
    let sign : Text := if negative then "-" else ""
    if -4 ≤ lead && lead < 0 then
      Text.concat [sign, "0.", Text.zeros ((-lead).toNat - 1), digits]
    else if 0 ≤ lead && lead < 16 then
      let whole := lead.toNat + 1
      let rest := digits.drop whole
      Text.concat [sign, digits.take whole, Text.zeros (whole - digits.length), ".",
        if rest.isEmpty then "0" else rest]
    else
      let rest := digits.drop 1
      let size := Text.ofNat lead.natAbs
      Text.concat [sign, digits.take 1, if rest.isEmpty then "" else ".", rest,
        if lead < 0 then "e-" else "e+", Text.zeros (2 - size.length), size]

/-- The number that a decimal `digits · 10 ^ exponent` rounds to. Decimals far outside the range
of binary64 are recognised by their size alone. -/
def ofDecimal (negative : Bool) (digits : Nat) (exponent : Int) : Float :=
  let size := exponent + (Nat.toDigits 10 digits).length
  let magnitude : Float :=
    if digits = 0 || size < -400 then 0.0
    else if 400 < size then 1.0 / 0.0
    else if 0 ≤ exponent then Float.ofScientific digits false exponent.toNat
    else Float.ofScientific digits true (-exponent).toNat
  if negative then -magnitude else magnitude

end Scaffold.Number
