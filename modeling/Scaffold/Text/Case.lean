import Scaffold.Text.CodePoint
import Scaffold.Text.Class
import Scaffold.Text.Table.Case

/-!
# Upper and lower case

The case maps of texts. Every code point maps on its own, perhaps to several, except the capital
sigma: it becomes the final form at the end of a word, that is after a letter and before none.

Letters of ASCII are mapped by arithmetic, all others by the tables of `Text.Table.Case`, which list
shifts of whole runs and the images of several code points. Proofs about names of ASCII letters
never open the tables.

Where only the first code point of a text is put in another case, it is mapped on its own, so the
sigma has no special form there.
-/

namespace Scaffold

namespace Text.Table

/-- Where a shift sends a number, if it covers it. -/
def Shift.send? (s : Shift) (n : Nat) : Option Nat :=
  if s.first ≤ n ∧ n ≤ s.last ∧ (n - s.first) % s.step = 0 then some (n + s.offset).toNat
  else none

/-- The image of a number: the long form if there is one, else the shifted number, else the
number itself. -/
def image (long : List (Nat × List Nat)) (shifts : List Shift) (n : Nat) : List Nat :=
  match long.lookup n with
  | some ns => ns
  | none => [(shifts.findSome? (·.send? n)).getD n]

end Text.Table

namespace CodePoint

open Text.Table (holds image)

/-- The capital letter sigma. -/
def capitalSigma : CodePoint := .char 'Σ'

/-- The lower-case form of one code point, wherever it stands. -/
def lower (c : CodePoint) : Text :=
  if c.code < 0x80 then [if c.isUpper then ofCode (c.code + 32) else c]
  else (image Text.Table.lowerLong Text.Table.lower c.code).map ofCode

/-- The upper-case form of one code point. -/
def upper (c : CodePoint) : Text :=
  if c.code < 0x80 then [if c.isLower then ofCode (c.code - 32) else c]
  else (image Text.Table.upperLong Text.Table.upper c.code).map ofCode

/-- Whether the nearest code point that is not passed over has a case. -/
def nearCased (neighbours : Text) : Bool :=
  match neighbours.dropWhile fun c => holds Text.Table.ignorable c.code with
  | [] => false
  | c :: _ => holds Text.Table.cased c.code

end CodePoint

namespace Text

/-- The lower-case form of a text whose preceding code points, nearest first, are given. -/
def lowerAfter (before : Text) : Text → Text
  | [] => []
  | c :: rest =>
    (if c = CodePoint.capitalSigma then
      if CodePoint.nearCased before && !CodePoint.nearCased rest then [.char 'ς'] else [.char 'σ']
    else c.lower) ++ lowerAfter (c :: before) rest

/-- The lower-case form of a text. -/
def lower (t : Text) : Text := lowerAfter [] t

/-- The upper-case form of a text. -/
def upper (t : Text) : Text := t.flatMap CodePoint.upper

/-- The text with its first code point in upper case. -/
def capitalize : Text → Text
  | [] => []
  | c :: rest => c.upper ++ rest

/-- The text with its first code point in lower case. -/
def uncapitalize : Text → Text
  | [] => []
  | c :: rest => c.lower ++ rest

end Text

end Scaffold
