import Scaffold.Json.Reader
import Scaffold.Text.Utf8

/-!
# Bytes that should be JSON

JSON may come in five encodings, and nothing has to say in which. A byte order mark at the start
tells the encoding and is no part of the text (`marks`). Without one, the place of the first zero
bytes tells, since JSON starts with two characters of ASCII, or with one if it is a single digit
(`Encoding.guess`). So UTF-8 with zero bytes in it is taken for something else.

Surrogates are let through wherever they can be written, as in the escapes of the text itself
(`Grammar.lenient`): alone in all encodings, in UTF-8 also in pairs. Whatever else is wrong with the
bytes, there is no text then (`textOf?`). Which byte is wrong is not told, since nobody asks.
-/

namespace Scaffold.Json

open Utf8 (Bytes)

/-! ## Encodings -/

/-- How the numbers of code points are written. -/
inductive Encoding where
  | utf8
  | utf16 (bigEndian : Bool)
  | utf32 (bigEndian : Bool)
  deriving DecidableEq

/-- What stands at the start of the bytes `lead :: rest` in UTF-8 that may hold surrogates: they
are written like other numbers of three bytes. -/
def laxStep (lead : UInt8) (rest : Bytes) : Utf8.Step :=
  match Utf8.step lead rest with
  | .point value further => .point value further
  | .broken defect count =>
    if lead = 0xED then
      Utf8.follow (Utf8.leadBits lead.toNat) 1 [(0x80, 0xBF), (0x80, 0xBF)] rest
    else .broken defect count

/-- Decodes UTF-8, of which `skip` bytes belong to a code point already read. -/
def ofUtf8? : (skip : Nat) → Bytes → Option Text
  | _, [] => some []
  | skip + 1, _ :: rest => ofUtf8? skip rest
  | 0, lead :: rest =>
    match laxStep lead rest with
    | .point value further => (ofUtf8? further rest).map (.ofCode value :: ·)
    | .broken _ _ => none

/-- The number that some bytes write. -/
def numberOf (bigEndian : Bool) (bytes : Bytes) : Nat :=
  (if bigEndian then bytes else bytes.reverse).foldl (fun n b => n * 0x100 + b.toNat) 0

/-- The numbers that bytes write, so many bytes each; `taken` are those of the next one that have
been taken already. No byte may be left over. -/
def numbers? (width : Nat) (bigEndian : Bool) : (taken : Bytes) → Bytes → Option (List Nat)
  | taken, [] => if taken.isEmpty then some [] else none
  | taken, b :: rest =>
    let bytes := taken ++ [b]
    if bytes.length = width then
      (numbers? width bigEndian [] rest).map (numberOf bigEndian bytes :: ·)
    else numbers? width bigEndian bytes rest

/-- The code points of numbers in UTF-16; `high` is a high surrogate just before, which is alone if
no low one follows. -/
def ofUnits : (high : Option Nat) → List Nat → Text
  | none, [] => []
  | some high, [] => [.ofCode high]
  | none, n :: rest => if isHigh n then ofUnits (some n) rest else .ofCode n :: ofUnits none rest
  | some high, n :: rest =>
    if isLow n then joinSurrogates high n :: ofUnits none rest
    else if isHigh n then .ofCode high :: ofUnits (some n) rest
    else .ofCode high :: .ofCode n :: ofUnits none rest

/-- The code points of numbers, if all of them are numbers of code points. -/
def ofNumbers? (ns : List Nat) : Option Text :=
  if ns.all (· < 0x110000) then some (ns.map CodePoint.ofCode) else none

namespace Encoding

/-- The text that is written in an encoding, if any is. -/
def decode? : Encoding → Bytes → Option Text
  | utf8, bytes => ofUtf8? 0 bytes
  | utf16 bigEndian, bytes => (numbers? 2 bigEndian [] bytes).map (ofUnits none)
  | utf32 bigEndian, bytes => (numbers? 4 bigEndian [] bytes).bind ofNumbers?

/-- The encoding in which JSON without a mark starts like this. -/
def guess : Bytes → Encoding
  | [a, b] => if a = 0 then utf16 true else if b = 0 then utf16 false else utf8
  | a :: b :: c :: d :: _ =>
    if a = 0 then if b = 0 then utf32 true else utf16 true
    else if b = 0 then if c = 0 ∧ d = 0 then utf32 false else utf16 false
    else utf8
  | _ => utf8

end Encoding

/-! ## Marks -/

/-- The byte order marks. One of them begins like another, and is looked for before it. -/
def marks : List (Bytes × Encoding) :=
  [([0x00, 0x00, 0xFE, 0xFF], .utf32 true), ([0xFF, 0xFE, 0x00, 0x00], .utf32 false),
   ([0xFE, 0xFF], .utf16 true), ([0xFF, 0xFE], .utf16 false), ([0xEF, 0xBB, 0xBF], .utf8)]

/-- The text of bytes that should be JSON. -/
def textOf? (bytes : Bytes) : Option Text :=
  match marks.find? fun m => m.1.isPrefixOf bytes with
  | some (mark, encoding) => encoding.decode? (bytes.drop mark.length)
  | none => (Encoding.guess bytes).decode? bytes

end Scaffold.Json
