import Scaffold.Text.Basic

/-!
# Matching without regard to case

A small letter of ASCII matches itself and its capital. The letter `i` also matches the two letters
that case maps connect with it: the dotted capital and the dotless small one.

Only searches for a few fixed words fold case (the tag of a fence, the ends of names of upload
columns), so folding is a relation between a code point and a small letter and not a map of texts.
The long s and the Kelvin sign belong to letters that none of these words ends or begins with where
it would matter.
-/

namespace Scaffold

/-- Whether a code point is the given small letter in any case. Anything but a letter matches
itself alone. -/
def CodePoint.foldsTo (c : CodePoint) (letter : Char) : Bool :=
  c = .char letter || c = .char letter.toUpper || (letter = 'i' && (c = 'İ' || c = 'ı'))

/-- Whether a text begins with the given small letters, in any case, and what follows them. -/
def Text.dropFolded? : (letters : List Char) → Text → Option Text
  | [], t => some t
  | _ :: _, [] => none
  | letter :: letters, c :: t => if c.foldsTo letter then dropFolded? letters t else none

/-- Whether a text ends with the given small letters, in any case. -/
def Text.endsWithFolded (t : Text) (letters : String) : Bool :=
  let size := letters.toList.length
  size ≤ t.length && dropFolded? letters.toList (t.drop (t.length - size)) = some []

end Scaffold
