import Scaffold.Text.CodePoint

/-!
# Patterns and their pieces

A pattern is a text with fields in braces, such as `{table}` or `{table:>10}`. A field names a value
and may say, after an exclamation mark, how the value is quoted and, after a colon, how it is laid
out; a layout may hold fields itself. A doubled brace stands for a brace.

`scan` reads a pattern from left to right by `Mode.step` and gives the pieces up to its first fault.

The reader is a state machine with one constructor of `Mode` for each place in a field where a code
point means something else. A fault does not hide the pieces before it: fields are filled in the
order in which they are read, so a field that cannot be filled is noticed before a brace behind it
that has no partner.
-/

namespace Scaffold.Pattern

/-- A field of a pattern. -/
structure Field where
  /-- What names the value. -/
  name : Text
  conversion : Option CodePoint := none
  layout : Text := []
  deriving DecidableEq, Inhabited

/-- A piece of a pattern. -/
inductive Piece where
  | literal (c : CodePoint)
  | field (f : Field)
  deriving DecidableEq, Inhabited

/-- What can be wrong with the braces of a pattern. -/
inductive BraceFault where
  | loneOpening
  | loneClosing
  | unclosed
  | openingInName
  | missingConversion
  | missingColon
  | unclosedLayout
  deriving DecidableEq

/-- The wording of a fault. -/
def BraceFault.message : BraceFault → Text
  | loneOpening => "Single '\x7b' encountered in format string"
  | loneClosing => "Single '\x7d' encountered in format string"
  | unclosed => "expected '\x7d' before end of string"
  | openingInName => "unexpected '\x7b' in field name"
  | missingConversion => "end of string while looking for conversion specifier"
  | missingColon => "expected ':' after conversion specifier"
  | unclosedLayout => "unmatched '\x7b' in format spec"

/-- Where in a pattern a reader stands. -/
inductive Mode where
  | literal
  /-- After an opening brace. -/
  | opening
  /-- After a closing brace. -/
  | closing
  | name (soFar : Text)
  /-- In the square brackets of a name, where everything else is plain. -/
  | brackets (soFar : Text)
  | conversion (name : Text)
  /-- After a conversion. -/
  | converted (name : Text) (conversion : CodePoint)
  /-- In a layout, with a number of braces open in it. -/
  | layout (name : Text) (conversion : Option CodePoint) (depth : Nat) (soFar : Text)

/-- The opening brace. -/
def opener : CodePoint := '\x7b'

/-- The closing brace. -/
def closer : CodePoint := '\x7d'

namespace Mode

/-- Reads one code point of the name of a field. -/
def stepName (soFar : Text) (c : CodePoint) : Except BraceFault (Mode × List Piece) :=
  if c = opener then .error .openingInName
  else if c = closer then .ok (literal, [.field { name := soFar }])
  else if c = ':' then .ok (layout soFar none 0 [], [])
  else if c = '!' then .ok (conversion soFar, [])
  else if c = '[' then .ok (brackets (soFar ++ [c]), [])
  else .ok (name (soFar ++ [c]), [])

/-- Reads one code point of a layout. -/
def stepLayout (name : Text) (conversion : Option CodePoint) (depth : Nat) (soFar : Text)
    (c : CodePoint) : Mode × List Piece :=
  if c = opener then (layout name conversion (depth + 1) (soFar ++ [c]), [])
  else if c = closer then
    match depth with
    | 0 => (literal, [.field ⟨name, conversion, soFar⟩])
    | depth + 1 => (layout name conversion depth (soFar ++ [c]), [])
  else (layout name conversion depth (soFar ++ [c]), [])

/-- Reads one code point. -/
def step : Mode → CodePoint → Except BraceFault (Mode × List Piece)
  | literal, c =>
    if c = opener then .ok (opening, [])
    else if c = closer then .ok (closing, [])
    else .ok (literal, [.literal c])
  | opening, c => if c = opener then .ok (literal, [.literal c]) else stepName [] c
  | closing, c => if c = closer then .ok (literal, [.literal c]) else .error .loneClosing
  | name soFar, c => stepName soFar c
  | brackets soFar, c =>
    if c = ']' then .ok (name (soFar ++ [c]), []) else .ok (brackets (soFar ++ [c]), [])
  | conversion n, c => .ok (converted n c, [])
  | converted n conv, c =>
    if c = closer then .ok (literal, [.field { name := n, conversion := conv }])
    else if c = ':' then .ok (layout n conv 0 [], [])
    else .error .missingColon
  | layout n conv depth soFar, c => .ok (stepLayout n conv depth soFar c)

/-- The fault of a pattern that ends here, if it may not. -/
def fault? : Mode → Option BraceFault
  | literal => none
  | opening => some .loneOpening
  | closing => some .loneClosing
  | name _ => some .unclosed
  | brackets _ => some .unclosed
  | conversion _ => some .missingConversion
  | converted .. => some .unclosedLayout
  | layout .. => some .unclosedLayout

end Mode

/-- The pieces of the rest of a pattern up to its first fault, and the fault. -/
def scanFrom (mode : Mode) : Text → List Piece × Option BraceFault
  | [] => ([], mode.fault?)
  | c :: rest =>
    match mode.step c with
    | .error fault => ([], some fault)
    | .ok (next, pieces) =>
      let (others, fault) := scanFrom next rest
      (pieces ++ others, fault)

/-- The pieces of a pattern up to its first fault, and the fault. -/
def scan (pattern : Text) : List Piece × Option BraceFault := scanFrom .literal pattern

end Scaffold.Pattern
