import Scaffold.Ordered
import Scaffold.Text.Basic

/-!
# Literals in generated code

Names and rules stand in generated code as single-quoted literals, in which a backslash and a quote
are escaped by a backslash and everything else stands for itself, line breaks included.

Lists of literals come in two layouts, over several lines and on one line; maps come in the first.
That they can be read back in full, for all texts, is `Proofs.Php.Arrays`.
-/

namespace Scaffold.Php

/-- How one code point stands in a literal. -/
def escape (c : CodePoint) : Text := if c = '\\' ∨ c = '\'' then ['\\', c] else [c]

/-- A text as a single-quoted literal. -/
def quote (t : Text) : Text := Text.concat ["'", t.flatMap escape, "'"]

/-- What separates the items of an array that is written over several lines. -/
def itemSeparator : Text := ",\n        "

/-- Literals one to a line: the inside of an array. -/
def literalLines (items : List Text) : Text := Text.join itemSeparator (items.map quote)

/-- An array of literals on one line. -/
def inlineArray (items : List Text) : Text :=
  Text.concat ["[", Text.join ", " (items.map quote), "]"]

/-- Keys and values as literals, one pair to a line: the inside of an array. -/
def pairLines (pairs : Ordered Text) : Text :=
  Text.join itemSeparator (pairs.map fun (key, value) =>
    Text.concat [quote key, " => ", quote value])

end Scaffold.Php
