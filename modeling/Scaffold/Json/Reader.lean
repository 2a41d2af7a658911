import Scaffold.Json.Basic

/-!
# Reading JSON

`Json.read` turns a text into the value it writes, or says what is wrong and where. `Grammar` holds
the two decisions in which readers of JSON differ: whether an escape may name half of a surrogate
pair, and how deep values may be nested.

A reader here takes the rest of the text and gives back what it read together with what is left; a
failure carries the number of code points that were left where it arose. Values, items and fields
are read by three readers that call one another. They run on fuel, of which the length of the text
is enough, since each of them leaves less than it was given (`Proofs.Json.Reading`).

Beyond the standard the lenient grammar takes the three names for numbers that are none, and escapes
by number are completed as far as they go. Whole numbers of more than 4300 digits are refused.

The depth at which nesting is refused is that of the program's reader under common conditions; it
depends on how deep the caller stands, and theorems do not use its value.
-/

namespace Scaffold.Json

/-- The decisions that the standard leaves to a reader. -/
structure Grammar where
  /-- Whether an escape may name one surrogate without its partner. -/
  allowsLoneSurrogates : Bool
  /-- How many lists and objects may enclose one another. -/
  maxDepth : Nat

/-- The grammar of structure files and server replies. -/
def Grammar.lenient : Grammar := ⟨true, 990⟩

/-- The grammar of settings files. -/
def Grammar.strict : Grammar := ⟨false, 200⟩

/-- What can be wrong with a text that should be JSON. -/
inductive Fault where
  | expectedValue
  | expectedName
  | expectedColon
  | expectedComma
  | unterminatedText
  | unknownEscape
  | malformedHexEscape
  | controlCharacter
  | loneSurrogate
  | tooDeep (what : Text)
  | extraData
  | byteOrderMark
  | oversizedNumber (digits : Nat)
  deriving DecidableEq

/-- The wording of a fault. -/
def Fault.message : Fault → Text
  | expectedValue => "Expecting value"
  | expectedName => "Expecting property name enclosed in double quotes"
  | expectedColon => "Expecting ':' delimiter"
  | expectedComma => "Expecting ',' delimiter"
  | unterminatedText => "Unterminated string starting at"
  | unknownEscape => "Invalid \\escape"
  | malformedHexEscape => "Invalid \\uXXXX escape"
  | controlCharacter => "Invalid control character at"
  | loneSurrogate => "Lone surrogate in escape"
  | tooDeep what =>
    Text.concat ["maximum recursion depth exceeded while decoding a JSON ", what,
      " from a unicode string"]
  | extraData => "Extra data"
  | byteOrderMark => "Unexpected UTF-8 BOM (decode using utf-8-sig)"
  | oversizedNumber digits =>
    Text.concat ["Exceeds the limit (4300 digits) for integer string conversion: value has ",
      Text.ofNat digits, " digits; use sys.set_int_max_str_digits() to increase the limit"]

/-- A fault and the number of code points left where it arose. -/
structure Failure where
  fault : Fault
  left : Nat

/-! ## Blanks, numbers -/

/-- The four blanks of JSON. -/
def isSpace (c : CodePoint) : Bool := c = ' ' || c = '\t' || c = '\n' || c = '\r'

/-- The text without blanks at its start. -/
def skipSpace (t : Text) : Text := t.dropWhile isSpace

/-- The digits at the start of a text, and the rest. -/
def spanDigits (t : Text) : Text × Text := (t.takeWhile (·.isDigit), t.dropWhile (·.isDigit))

/-- The digits after a point, if a point and a digit follow. -/
def readFraction (t : Text) : Option (Text × Text) :=
  match t with
  | .char '.' :: rest =>
    let (digits, rest) := spanDigits rest
    if digits.isEmpty then none else some (digits, rest)
  | _ => none

/-- The exponent, if one follows. -/
def readExponent (t : Text) : Option (Int × Text) :=
  match t with
  | [] => none
  | c :: rest =>
    if c = 'e' ∨ c = 'E' then
      let (negative, rest) := match rest with
        | .char '-' :: r => (true, r)
        | .char '+' :: r => (false, r)
        | r => (false, r)
      let (digits, rest) := spanDigits rest
      if digits.isEmpty then none
      else
        let size : Int := Text.toNat digits
        some (if negative then -size else size, rest)
    else none

/-- The largest number of digits a whole number may have. -/
def maxDigits : Nat := 4300

/-- A number. Its digits start with a zero only if that is all; a fraction or an exponent makes
it a binary number. -/
def readNumber (t : Text) : Except Failure (Json × Text) :=
  let (negative, unsigned) := match t with
    | .char '-' :: r => (true, r)
    | r => (false, r)
  let (digits, rest) : Text × Text := match unsigned with
    | .char '0' :: r => (['0'], r)
    | r => spanDigits r
  if digits.isEmpty then .error ⟨.expectedValue, t.length⟩
  else
    let fraction := readFraction rest
    let afterFraction := (fraction.map (·.2)).getD rest
    let exponent := readExponent afterFraction
    if fraction.isNone && exponent.isNone then
      if maxDigits < digits.length then .error ⟨.oversizedNumber digits.length, t.length⟩
      else
        let n : Int := Text.toNat digits
        .ok (.int (if negative then -n else n), rest)
    else
      let places := (fraction.map (·.1)).getD []
      let power := (exponent.map (·.1)).getD 0
      let x := Number.ofDecimal negative (Text.toNat (digits ++ places)) (power - places.length)
      .ok (.float x, (exponent.map (·.2)).getD afterFraction)

/-! ## Texts -/

/-- The value of a hexadecimal digit. -/
def hexValue? (c : CodePoint) : Option Nat :=
  if c.isDigit then some (c.code - 0x30)
  else if 0x61 ≤ c.code && c.code ≤ 0x66 then some (c.code - 0x57)
  else if 0x41 ≤ c.code && c.code ≤ 0x46 then some (c.code - 0x37)
  else none

/-- The number that four hexadecimal digits at the start of a text write. -/
def hexQuad? : Text → Option Nat
  | a :: b :: c :: d :: _ => do
    return 0x1000 * (← hexValue? a) + 0x100 * (← hexValue? b) + 0x10 * (← hexValue? c)
      + (← hexValue? d)
  | _ => none

/-- What stands next in a quoted text: its end, a code point written with a number of further
code points, or a fault after a number of them. -/
inductive Piece where
  | close
  | point (c : CodePoint) (further : Nat)
  | broken (fault : Fault) (after : Nat)

/-- What a letter after a backslash stands for. -/
def simpleEscape? : CodePoint → Option CodePoint
  | .char '"' => some '"'
  | .char '\\' => some '\\'
  | .char '/' => some '/'
  | .char 'b' => some '\x08'
  | .char 'f' => some '\x0c'
  | .char 'n' => some '\n'
  | .char 'r' => some '\r'
  | .char 't' => some '\t'
  | _ => none

/-- The code point of a pair of surrogates. -/
def joinSurrogates (high low : Nat) : CodePoint :=
  .ofCode (0x10000 + 0x400 * (high - 0xD800) + (low - 0xDC00))

/-- Whether a number is a high surrogate. -/
def isHigh (n : Nat) : Bool := 0xD800 ≤ n && n < 0xDC00

/-- Whether a number is a low surrogate. -/
def isLow (n : Nat) : Bool := 0xDC00 ≤ n && n < 0xE000

/-- What an escape by number stands for, given what follows its `u`. Two escapes that name a pair
of surrogates stand for one code point. A closing quote must still be able to follow. -/
def hexEscape (g : Grammar) (t : Text) : Piece :=
  if (t.drop 4).isEmpty then .broken .malformedHexEscape 1
  else match hexQuad? t with
    | none => .broken .malformedHexEscape 1
    | some n =>
      let alone : Piece :=
        if !g.allowsLoneSurrogates && (isHigh n || isLow n) then .broken .loneSurrogate 1
        else .point (.ofCode n) 5
      match isHigh n && !(t.drop 10).isEmpty, t.drop 4 with
      | true, .char '\\' :: .char 'u' :: second =>
        match hexQuad? second with
        | none => .broken .malformedHexEscape 7
        | some low => if isLow low then .point (joinSurrogates n low) 11 else alone
      | _, _ => alone

/-- What stands at the start of the inside of a quoted text that is not at its end. -/
def piece (g : Grammar) (c : CodePoint) (rest : Text) : Piece :=
  if c = '"' then .close
  else if c = '\\' then
    match rest with
    | [] => .broken .unterminatedText 0
    | .char 'u' :: digits => hexEscape g digits
    | e :: _ =>
      match simpleEscape? e with
      | some d => .point d 1
      | none => .broken .unknownEscape 0
  else if c.code ≤ 0x1F then .broken .controlCharacter 0
  else .point c 0

/-- The inside of a quoted text whose opening quote had `start` code points left; `skip` code
points belong to an escape that was already read. -/
def readInside (g : Grammar) (start : Nat) :
    (skip : Nat) → Text → Except Failure (Text × Text)
  | _, [] => .error ⟨.unterminatedText, start⟩
  | skip + 1, _ :: rest => readInside g start skip rest
  | 0, c :: rest =>
    match piece g c rest with
    | .close => .ok ([], rest)
    | .point d further => do
      let (inside, rest) ← readInside g start further rest
      return (d :: inside, rest)
    | .broken .unterminatedText _ => .error ⟨.unterminatedText, start⟩
    | .broken fault after => .error ⟨fault, (c :: rest).length - after⟩

/-! ## Values -/

/-- The words among the values. -/
def words : List (Text × Json) :=
  [("null", .null), ("true", .bool true), ("false", .bool false), ("NaN", .float (0.0 / 0.0)),
   ("Infinity", .float (1.0 / 0.0)), ("-Infinity", .float (-1.0 / 0.0))]

/-- The word at the start of a text, if it is a value. -/
def readWord? (t : Text) : Option (Json × Text) :=
  words.findSome? fun (word, v) => (Text.dropStart? word t).map fun rest => (v, rest)

mutual

/-- A value at the start of the text. The fuel bounds the steps; each needs a code point of its
own, so twice the length of the text is enough. -/
def readValue (g : Grammar) (depth : Nat) : (fuel : Nat) → Text → Except Failure (Json × Text)
  | 0, t => .error ⟨.expectedValue, t.length⟩
  | fuel + 1, t =>
    match t with
    | .char '"' :: rest => do
      let (inside, rest) ← readInside g t.length 0 rest
      return (.text inside, rest)
    | .char '[' :: rest =>
      match depth with
      | 0 => .error ⟨.tooDeep "array", t.length⟩
      | depth + 1 =>
        match skipSpace rest with
        | .char ']' :: rest => .ok (.list [], rest)
        | rest => do
          let (items, rest) ← readItems g depth fuel rest
          return (.list items, rest)
    | .char '\x7b' :: rest =>
      match depth with
      | 0 => .error ⟨.tooDeep "object", t.length⟩
      | depth + 1 =>
        match skipSpace rest with
        | .char '\x7d' :: rest => .ok (.object [], rest)
        | rest => do
          let (fields, rest) ← readFields g depth fuel rest
          return (.object (Ordered.ofEntries fields), rest)
    | t =>
      match readWord? t with
      | some found => .ok found
      | none => readNumber t

/-- The items of a list up to its closing bracket; at least one. -/
def readItems (g : Grammar) (depth : Nat) : (fuel : Nat) → Text → Except Failure (List Json × Text)
  | 0, t => .error ⟨.expectedValue, t.length⟩
  | fuel + 1, t => do
    let (v, rest) ← readValue g depth fuel t
    match skipSpace rest with
    | .char ']' :: rest => return ([v], rest)
    | .char ',' :: rest =>
      let (vs, rest) ← readItems g depth fuel (skipSpace rest)
      return (v :: vs, rest)
    | rest => .error ⟨.expectedComma, rest.length⟩

/-- The fields of an object up to its closing brace; at least one. -/
def readFields (g : Grammar) (depth : Nat) :
    (fuel : Nat) → Text → Except Failure (List (Text × Json) × Text)
  | 0, t => .error ⟨.expectedValue, t.length⟩
  | fuel + 1, t =>
    match t with
    | .char '"' :: rest => do
      let (key, rest) ← readInside g t.length 0 rest
      match skipSpace rest with
      | .char ':' :: rest =>
        let (v, rest) ← readValue g depth fuel (skipSpace rest)
        match skipSpace rest with
        | .char '\x7d' :: rest => return ([(key, v)], rest)
        | .char ',' :: rest =>
          let (fields, rest) ← readFields g depth fuel (skipSpace rest)
          return ((key, v) :: fields, rest)
        | rest => .error ⟨.expectedComma, rest.length⟩
      | rest => .error ⟨.expectedColon, rest.length⟩
    | _ => .error ⟨.expectedName, t.length⟩

end

/-- A fault in a text, and the number of code points before it. -/
structure ReadError where
  fault : Fault
  source : Text
  position : Nat

/-- The wording of an error, with the place in lines, columns and code points. -/
def ReadError.message (e : ReadError) : Text :=
  match e.fault with
  | .oversizedNumber _ => e.fault.message
  | .tooDeep _ => e.fault.message
  | fault =>
    let before := e.source.take e.position
    let line := before.count (.char '\n') + 1
    let column := (before.reverse.takeWhile fun c : CodePoint => c ≠ '\n').length + 1
    Text.concat [fault.message, ": line ", Text.ofNat line, " column ", Text.ofNat column,
      " (char ", Text.ofNat e.position, ")"]

/-- The value that a whole text writes. -/
def read (g : Grammar) (t : Text) : Except ReadError Json :=
  let fail (failure : Failure) : ReadError := ⟨failure.fault, t, t.length - failure.left⟩
  match t with
  | .char '\uFEFF' :: _ => .error (fail ⟨.byteOrderMark, t.length⟩)
  | _ =>
    match readValue g g.maxDepth (2 * t.length + 2) (skipSpace t) with
    | .error failure => .error (fail failure)
    | .ok (v, rest) =>
      match skipSpace rest with
      | [] => .ok v
      | rest => .error (fail ⟨.extraData, rest.length⟩)

end Scaffold.Json
