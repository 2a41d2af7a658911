import Scaffold.Ordered
import Scaffold.Pattern.Layout
import Scaffold.Pattern.Scan
import Scaffold.Text.Quoted

/-!
# Filling patterns

`fill` puts values into the fields of a pattern. The name of a field is the name of a value, after
which single code points of the value may be chosen by their number in square brackets. Values have
names only: a field without a name, or with a number for one, stands for nothing.

Values are texts. A point in a name asks for an attribute, and what texts have for attributes is
left to the caller (`Attributes`): they are things of the language in which the program runs, may
lead anywhere from there, and are shown by rules of their own. What stands before the point, and the
conversion and layout after the name, are those of all fields.

A layout with fields in it is filled first, one level deep. The recursion is on that depth and not
on the text.

`Proofs.Pattern.Fills` says without a scan when a pattern can be filled, and what it then becomes.
-/

namespace Scaffold.Pattern

/-- Why a pattern cannot be filled. -/
inductive Fault where
  | braces (fault : BraceFault)
  | layout (fault : LayoutFault)
  | unknownName (name : Text)
  | noPosition (index : Nat)
  | oversizedIndex
  | unknownConversion (conversion : CodePoint)
  | tooDeep
  | emptyPart
  | unclosedPart
  | partAfterBracket
  | noAttribute (name : Text)
  /-- An attribute is there, but is of no use. -/
  | unusable (message : Text)
  | indexKind
  | indexOutOfRange
  deriving DecidableEq

/-- The wording of a fault. -/
def Fault.message : Fault → Text
  | braces fault => fault.message
  | layout fault => fault.message
  | unknownName name => name.quoted
  | noPosition index =>
    Text.concat ["Replacement index ", Text.ofNat index,
      " out of range for positional args tuple"]
  | oversizedIndex => LayoutFault.oversizedNumber.message
  | unknownConversion conversion =>
    "Unknown conversion specifier " ++ shownPoint 127 conversion
  | tooDeep => "Max string recursion exceeded"
  | emptyPart => "Empty attribute in format string"
  | unclosedPart => "Missing ']' in format string"
  | partAfterBracket => "Only '.' or '[' may follow ']' in format field specifier"
  | noAttribute name => Text.concat ["'str' object has no attribute '", name, "'"]
  | unusable message => message
  | indexKind => "string indices must be integers, not 'str'"
  | indexOutOfRange => "string index out of range"

/-- The number that a whole text is, if it is one. -/
def number? (t : Text) : Except Fault (Option Nat) :=
  match takeNumber none t with
  | (some n, []) => if maxNumber < n then .error .oversizedIndex else .ok (some n)
  | _ => .ok none

/-- Whether a code point ends the first part of a name. -/
def endsPart (c : CodePoint) : Bool := c = '.' || c = '['

/-- Something that need not be a text, as far as filling can use it: it is shown as it is or in
quotes, or put into a layout by rules of its own. -/
structure Attribute where
  shown : Text
  quoted : Text
  laidOut : (layout : Text) → Except Fault Text

/-- What the attributes of texts are, by the text and the rest of a field's name from its first
point on. -/
abbrev Attributes := (value rest : Text) → Except Fault Attribute

/-- No text has an attribute. -/
def Attributes.none : Attributes := fun _ rest =>
  let name := (rest.drop 1).takeWhile fun d => !endsPart d
  if name.isEmpty then .error .emptyPart else .error (.noAttribute name)

/-- What a field stands for. -/
inductive Value where
  | text (t : Text)
  | thing (a : Attribute)

namespace Value

/-- A value as it is. -/
def shown : Value → Text
  | text t => t
  | thing a => a.shown

/-- A value in quotes, if it is a text. -/
def quoted : Value → Text
  | text t => t.quoted
  | thing a => a.quoted

/-- What a value becomes in a layout. -/
def layOut : Value → (layout : Text) → Except Fault Text
  | text t, layout =>
    if layout.isEmpty then .ok t
    else
      match Layout.ofText layout with
      | .ok l => .ok (l.apply t)
      | .error fault => .error (.layout fault)
  | thing a, layout => a.laidOut layout

end Value

/-- What the rest of a name chooses from a value. -/
def choose (attributes : Attributes) (value : Text) (rest : Text) : Except Fault Value :=
  match rest with
  | [] => .ok (.text value)
  | c :: rest =>
    if c = '.' then (attributes value (c :: rest)).map .thing
    else if c = '[' then
      match h : Text.cutAt "]" rest with
      | none => .error .unclosedPart
      | some (part, after) =>
        match number? part with
        | .error fault => .error fault
        | .ok none => if part.isEmpty then .error .emptyPart else .error .indexKind
        | .ok (some n) =>
          match value[n]? with
          | some chosen =>
            have : after.length < rest.length + 1 := Nat.lt_succ_of_le (Text.length_after_le h)
            choose attributes [chosen] after
          | none => .error .indexOutOfRange
    else .error .partAfterBracket
termination_by rest.length

/-- The value that the name of a field stands for. -/
def valueOf (attributes : Attributes) (values : Ordered Text) (name : Text) :
    Except Fault Value := do
  let first := name.takeWhile fun c => !endsPart c
  match ← number? first with
  | some n => throw (.noPosition n)
  | none =>
    if first.isEmpty then throw (.noPosition 0)
    match Ordered.get? values first with
    | some value => choose attributes value (name.drop first.length)
    | none => throw (.unknownName first)

/-- A text with numbers in place of what is not in ASCII. -/
def inAscii (t : Text) : Text :=
  t.flatMap fun c =>
    if c.code < 0x80 then [c]
    else if c.code < 0x100 then Text.ofString "\\x" ++ Text.hex 2 c.code
    else if c.code < 0x10000 then Text.ofString "\\u" ++ Text.hex 4 c.code
    else Text.ofString "\\U" ++ Text.hex 8 c.code

/-- A value as a conversion wants it. -/
def convert (conversion : Option CodePoint) (value : Value) : Except Fault Value :=
  match conversion with
  | none => .ok value
  | some c =>
    if c = 's' then .ok (.text value.shown)
    else if c = 'r' then .ok (.text value.quoted)
    else if c = 'a' then .ok (.text (inAscii value.quoted))
    else .error (.unknownConversion c)

/-- The text that a field becomes; `fillLayout` fills the fields in its layout. -/
def fillField (attributes : Attributes) (values : Ordered Text)
    (fillLayout : Text → Except Fault Text) (f : Field) : Except Fault Text := do
  let value ← convert f.conversion (← valueOf attributes values f.name)
  let layout ← if f.layout.elem opener then fillLayout f.layout else pure f.layout
  value.layOut layout

/-- The text that a piece becomes. -/
def fillPiece (attributes : Attributes) (values : Ordered Text)
    (fillLayout : Text → Except Fault Text) : Piece → Except Fault Text
  | .literal c => .ok [c]
  | .field f => fillField attributes values fillLayout f

/-- A pattern with its fields filled, in which fields may be nested so deep. -/
def fillNested (attributes : Attributes) (values : Ordered Text) :
    (depth : Nat) → Text → Except Fault Text
  | 0, _ => .error .tooDeep
  | depth + 1, pattern => do
    let (pieces, fault) := scan pattern
    let texts ← pieces.mapM (fillPiece attributes values (fillNested attributes values depth))
    match fault with
    | some fault => throw (.braces fault)
    | none => return Text.concat texts

/-- How deep the fields of a pattern may be nested. -/
def maxDepth : Nat := 2

/-- A pattern with its fields filled. -/
def fill (attributes : Attributes) (values : Ordered Text) (pattern : Text) :
    Except Fault Text :=
  fillNested attributes values maxDepth pattern

end Scaffold.Pattern
