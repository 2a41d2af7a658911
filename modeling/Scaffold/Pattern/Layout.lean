import Scaffold.Text.Quoted

/-!
# Layouts

The layout of a field says into how wide a space its text is put, at which side, with which filling,
and how much of the text is kept. The notation also has marks that only make sense for numbers; they
are read, and refused.

A layout is read as a whole before it is judged, and of several things that are wrong with it the
first is told in the order of judging, which is not that of the notation.

Widths count code points. A width may be as large as a machine word, and then the text it makes is
as large: nothing here stands in the way of it.
-/

namespace Scaffold.Pattern

/-- How a text is put into a space. -/
structure Layout where
  fill : CodePoint := ' '
  /-- One of `<`, `>` and `^`. -/
  side : CodePoint := '<'
  width : Nat := 0
  /-- How many code points of the text are kept, if not all. -/
  keep : Option Nat := none

/-- What can be wrong with a layout. -/
inductive LayoutFault where
  | oversizedNumber
  | bothSeparators
  | missingPrecision
  | invalid (layout : Text)
  | separatorWith (separator type : CodePoint)
  | unknownType (type : CodePoint)
  | space
  | sign
  | negativeZero
  | alternate
  | spread
  deriving DecidableEq

/-- How an error shows a single code point: as it is, or by its number. -/
def shownPoint (limit : Nat) (c : CodePoint) : Text :=
  if 32 < c.code && c.code < limit then [c] else Text.ofString "\\x" ++ Text.hex 1 c.code

/-- The wording of a fault. -/
def LayoutFault.message : LayoutFault → Text
  | oversizedNumber => "Too many decimal digits in format string"
  | bothSeparators => "Cannot specify both ',' and '_'."
  | missingPrecision => "Format specifier missing precision"
  | invalid layout =>
    Text.concat ["Invalid format specifier '", layout, "' for object of type 'str'"]
  | separatorWith separator type =>
    Text.concat ["Cannot specify '", [separator], "' with '", shownPoint 128 type, "'."]
  | unknownType type =>
    Text.concat ["Unknown format code '", shownPoint 128 type, "' for object of type 'str'"]
  | space => "Space not allowed in string format specifier"
  | sign => "Sign not allowed in string format specifier"
  | negativeZero => "Negative zero coercion (z) not allowed in string format specifier"
  | alternate => "Alternate form (#) not allowed in string format specifier"
  | spread => "'=' alignment not allowed in string format specifier"

/-- The largest number in a pattern. -/
def maxNumber : Nat := 0x7FFFFFFFFFFFFFFF

/-- The number at the start of a text, in digits of any script, and what follows; no number where
there is no digit. -/
def takeNumber (soFar : Option Nat) : Text → Option Nat × Text
  | [] => (soFar, [])
  | c :: rest =>
    match c.digitValue? with
    | some d => takeNumber (some (10 * soFar.getD 0 + d)) rest
    | none => (soFar, c :: rest)

/-- The number at the start of a text, if it is not too large. -/
def boundedNumber (t : Text) : Except LayoutFault (Option Nat × Text) :=
  let (number, rest) := takeNumber none t
  if maxNumber < number.getD 0 then .error .oversizedNumber else .ok (number, rest)

/-- The marks of the four sides. -/
def sides : List CodePoint := ['<', '>', '=', '^']

/-- The filling and the side at the start of a layout, and what follows. -/
def takeSide : Text → Option CodePoint × Option CodePoint × Text
  | c :: d :: rest =>
    if sides.elem d then (some c, some d, rest)
    else if sides.elem c then (none, some c, d :: rest)
    else (none, none, c :: d :: rest)
  | [c] => if sides.elem c then (none, some c, []) else (none, none, [c])
  | [] => (none, none, [])

/-- The first code point, if it is one of some marks, and what follows. -/
def takeMark (marks : List CodePoint) : Text → Option CodePoint × Text
  | c :: rest => if marks.elem c then (some c, rest) else (none, c :: rest)
  | [] => (none, [])

/-- The separator of digits at the start of a text, and what follows. -/
def takeSeparator (t : Text) : Except LayoutFault (Option CodePoint × Text) :=
  let (comma, rest) := takeMark [','] t
  let (underscore, rest) := takeMark ['_'] rest
  if underscore.isSome && (comma.isSome || rest.head? = some ',') then .error .bothSeparators
  else .ok (comma.or underscore, rest)

/-- The precision at the start of a text, and what follows. -/
def takePrecision : Text → Except LayoutFault (Option Nat × Text)
  | .char '.' :: rest => do
    match ← boundedNumber rest with
    | (some n, rest) => return (some n, rest)
    | (none, _) => throw .missingPrecision
  | t => .ok (none, t)

/-- The types of numbers that a separator may stand with. -/
def separable (separator : CodePoint) : List CodePoint :=
  if separator = '_' then Text.ofString "defgEG%F\x00boxX" else Text.ofString "defgEG%F\x00"

/-- Refuses a separator with a type that has no digits to separate. -/
def checkSeparator (separator : Option CodePoint) (type : CodePoint) : Except LayoutFault Unit :=
  match separator with
  | some s => if (separable s).elem type then .ok () else .error (.separatorWith s type)
  | none => .ok ()

/-- The layout that a text describes. -/
def Layout.ofText (t : Text) : Except LayoutFault Layout := do
  let (fill, side, rest) := takeSide t
  let (sign, rest) := takeMark [' ', '+', '-'] rest
  let (coercion, rest) := takeMark ['z'] rest
  let (alternate, rest) := takeMark ['#'] rest
  let (zero, rest) := if fill.isNone then takeMark ['0'] rest else (none, rest)
  let (width, rest) ← boundedNumber rest
  let (separator, rest) ← takeSeparator rest
  let (precision, rest) ← takePrecision rest
  let type ← match rest with
    | [] => pure (.char 's')
    | [c] => pure c
    | _ => throw (.invalid t)
  checkSeparator separator type
  if type ≠ 's' then throw (.unknownType type)
  match sign with
  | some c => if c = ' ' then throw .space else throw .sign
  | none => pure ()
  if coercion.isSome then throw .negativeZero
  if alternate.isSome then throw .alternate
  if side = some '=' then throw .spread
  return {
    fill := (fill.or zero).getD ' '
    side := side.getD '<'
    width := width.getD 0
    keep := precision }

/-- A text put into its space. -/
def Layout.apply (l : Layout) (t : Text) : Text :=
  let kept := match l.keep with
    | some n => t.take n
    | none => t
  let room := l.width - kept.length
  let before := if l.side = '>' then room else if l.side = '^' then room / 2 else 0
  List.replicate before l.fill ++ kept ++ List.replicate (room - before) l.fill

end Scaffold.Pattern
