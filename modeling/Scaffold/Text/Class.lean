import Scaffold.Text.CodePoint
import Scaffold.Text.Table.Word
import Scaffold.Text.Table.Printable

/-!
# Classes of code points

Which code points are blank, part of a word, printable or decimal digits. A lone surrogate is in
none of the classes. ASCII is decided by comparison; everything past it by the tables, which list
runs of code points.

The names follow what the classes are used for. `isLower`, `isUpper`, `isDigit` and `isAlphanumeric`
are about ASCII alone, as are the rules that use them; `isBlank`, `isWord` and `digitValue?` are
about all scripts.
-/

namespace Scaffold

namespace Text.Table

/-- Whether a number lies in one of the runs. -/
def holds (runs : List (Nat × Nat)) (n : Nat) : Bool :=
  runs.any fun run => run.1 ≤ n && n ≤ run.2

/-- The runs of blanks: the separators of Unicode, the tab-to-return controls, the four
information separators and U+0085. -/
def blank : List (Nat × Nat) :=
  [(0x09, 0x0D), (0x1C, 0x20), (0x85, 0x85), (0xA0, 0xA0), (0x1680, 0x1680), (0x2000, 0x200A),
   (0x2028, 0x2029), (0x202F, 0x202F), (0x205F, 0x205F), (0x3000, 0x3000)]

end Text.Table

namespace CodePoint

open Text.Table (holds)

/-- The letters `a` to `z`. -/
def isLower (c : CodePoint) : Bool := 0x61 ≤ c.code && c.code ≤ 0x7A

/-- The letters `A` to `Z`. -/
def isUpper (c : CodePoint) : Bool := 0x41 ≤ c.code && c.code ≤ 0x5A

/-- The digits `0` to `9`. -/
def isDigit (c : CodePoint) : Bool := 0x30 ≤ c.code && c.code ≤ 0x39

/-- The letters and digits of ASCII. -/
def isAlphanumeric (c : CodePoint) : Bool := c.isLower || c.isUpper || c.isDigit

/-- White space of any script. -/
def isBlank (c : CodePoint) : Bool := holds Text.Table.blank c.code

/-- What words are made of: letters and numbers of any script, and the underscore. -/
def isWord (c : CodePoint) : Bool :=
  if c.code < 0x80 then c.isAlphanumeric || c.code == 0x5F else holds Text.Table.word c.code

/-- What a quoted text may show as it is: any graphic character, and of the separators only
the space. -/
def isPrintable (c : CodePoint) : Bool :=
  if c.code < 0x80 then 0x20 ≤ c.code && c.code < 0x7F else holds Text.Table.printable c.code

/-- The value of a decimal digit of any script. -/
def digitValue? (c : CodePoint) : Option Nat :=
  (Text.Table.zeros.find? fun start => start ≤ c.code && c.code < start + 10).map (c.code - ·)

end CodePoint

end Scaffold
