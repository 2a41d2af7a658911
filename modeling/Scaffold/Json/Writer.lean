import Scaffold.Json.Basic

/-!
# Writing JSON

Two layouts. `Json.line` writes a value on one line in ASCII: prompts and answers use it. Every code
point outside ASCII is escaped, one past U+FFFF by the escapes of its two surrogates. `Json.page`
writes one item to a line, indented by two spaces a level, and escapes only what the standard
demands: settings files and diagnostics use it.

Both are total: a lone surrogate becomes an escape on a line, and stands as it is on a page, where
encoding the page then fails. `Proofs.Json.Writing` tells which values are read back from a page,
and `Proofs.Json.Lines` that lines tell lists of texts apart.
-/

namespace Scaffold.Json

/-- The escape of a number below `0x10000`. -/
def hexEscapeOf (n : Nat) : Text := Text.ofString "\\u" ++ Text.hex 4 n

/-- The escape by a letter, for the code points that have one. -/
def shortEscape? : CodePoint → Option Text
  | .char '"' => some "\\\""
  | .char '\\' => some "\\\\"
  | .char '\n' => some "\\n"
  | .char '\r' => some "\\r"
  | .char '\t' => some "\\t"
  | .char '\x08' => some "\\b"
  | .char '\x0c' => some "\\f"
  | _ => none

/-- How one code point stands inside quotes in ASCII. -/
def asciiPoint (c : CodePoint) : Text :=
  match shortEscape? c with
  | some e => e
  | none =>
    if 0x20 ≤ c.code && c.code < 0x7F then [c]
    else if c.code < 0x10000 then hexEscapeOf c.code
    else
      hexEscapeOf (0xD800 + (c.code - 0x10000) / 0x400) ++
        hexEscapeOf (0xDC00 + (c.code - 0x10000) % 0x400)

/-- A text in quotes, in ASCII. -/
def asciiQuoted (t : Text) : Text := Text.concat ["\"", t.flatMap asciiPoint, "\""]

/-- How one code point stands inside quotes when only control characters are escaped. -/
def plainPoint (c : CodePoint) : Text :=
  match shortEscape? c with
  | some e => e
  | none => if c.code < 0x20 then hexEscapeOf c.code else [c]

/-- A text in quotes, with only the escapes that the standard demands. -/
def plainQuoted (t : Text) : Text := Text.concat ["\"", t.flatMap plainPoint, "\""]

/-- A binary number; the three that are no numbers have names. -/
def floatText (x : Float) : Text :=
  match Number.decode x with
  | .nan => "NaN"
  | .infinite negative => if negative then "-Infinity" else "Infinity"
  | .finite .. => Number.shortest x

mutual

/-- A value on one line. -/
def line : Json → Text
  | null => "null"
  | bool b => if b then "true" else "false"
  | int n => Text.ofInt n
  | float x => floatText x
  | text t => asciiQuoted t
  | list items => "[" ++ Text.join ", " (lineItems items) ++ "]"
  | object fields => "\x7b" ++ Text.join ", " (lineFields fields) ++ "\x7d"

/-- The items of a list, each on one line. -/
def lineItems : List Json → List Text
  | [] => []
  | v :: rest => line v :: lineItems rest

/-- The fields of an object, each on one line. -/
def lineFields : List (Text × Json) → List Text
  | [] => []
  | (k, v) :: rest => (asciiQuoted k ++ ": " ++ line v) :: lineFields rest

end

/-- A line break and the indentation of a level. -/
def newLine (level : Nat) : Text := '\n' :: List.replicate (2 * level) (.char ' ')

/-- Items between brackets, one to a line. -/
def block (level : Nat) (opening closing : Text) (items : List Text) : Text :=
  if items.isEmpty then opening ++ closing
  else Text.concat [opening, newLine (level + 1), Text.join ("," ++ newLine (level + 1)) items,
    newLine level, closing]

mutual

/-- A value over several lines, at a level of indentation. -/
def pageAt (level : Nat) : Json → Text
  | null => "null"
  | bool b => if b then "true" else "false"
  | int n => Text.ofInt n
  | float x => floatText x
  | text t => plainQuoted t
  | list items => block level "[" "]" (pageItems (level + 1) items)
  | object fields => block level "\x7b" "\x7d" (pageFields (level + 1) fields)

/-- The items of a list. -/
def pageItems (level : Nat) : List Json → List Text
  | [] => []
  | v :: rest => pageAt level v :: pageItems level rest

/-- The fields of an object. -/
def pageFields (level : Nat) : List (Text × Json) → List Text
  | [] => []
  | (k, v) :: rest =>
    (plainQuoted k ++ ": " ++ pageAt level v) :: pageFields level rest

end

/-- A value over several lines. -/
def page (v : Json) : Text := pageAt 0 v

/-- The list of some texts. -/
def ofTexts (ts : List Text) : Json := list (ts.map text)

end Scaffold.Json
