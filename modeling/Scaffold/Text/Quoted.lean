import Scaffold.Text.Basic

/-!
# Quoted texts in messages

Messages show a text in quotes with everything invisible spelled out, so that a reader can tell what
it holds. Single quotes are used, unless the text holds one and no double quote.

What is spelled out: the quote itself, backslashes, three line controls by a letter, and whatever is
not printable by its number, in as many digits as its size needs. Lone surrogates are not printable.
-/

namespace Scaffold.Text

/-- The hexadecimal digits of a number, at least `width` of them. -/
def hex (width n : Nat) : Text :=
  let digits := ofString (String.ofList (Nat.toDigits 16 n))
  zeros (width - digits.length) ++ digits

/-- How one code point stands inside the given quotes. -/
def quotedPoint (quote c : CodePoint) : Text :=
  if c = quote ∨ c = '\\' then ['\\', c]
  else if c = '\n' then "\\n"
  else if c = '\r' then "\\r"
  else if c = '\t' then "\\t"
  else if c.isPrintable then [c]
  else if c.code < 0x100 then ofString "\\x" ++ hex 2 c.code
  else if c.code < 0x10000 then ofString "\\u" ++ hex 4 c.code
  else ofString "\\U" ++ hex 8 c.code

/-- The text in quotes. -/
def quoted (t : Text) : Text :=
  let quote : CodePoint :=
    if t.contains "'" && !t.contains "\"" then '"' else '\''
  quote :: t.flatMap (quotedPoint quote) ++ [quote]

end Scaffold.Text
