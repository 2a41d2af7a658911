import Scaffold.Text.Quoted

/-!
# UTF-8

Files hold bytes, texts hold code points. `Utf8.encode` fails at a lone surrogate and nowhere else;
`Utf8.decode` accepts exactly the well-formed byte sequences and reports the first place where the
bytes stop being one.

The errors carry what their wording shows: the run of code points without an encoding, or the byte
at which decoding stopped and why. Overlong forms, surrogates and numbers past the last code point
are told from the second byte on, since the range of that byte depends on the first.

That decoding undoes encoding, and the other way round, is `Proofs.Text.Encoding`.
-/

namespace Scaffold.Utf8

/-- The content of a file. -/
abbrev Bytes := List UInt8

/-! ## Encoding -/

/-- Whether a code point is a surrogate, which has no encoding. -/
def isSurrogate : CodePoint → Bool
  | .surrogate _ => true
  | .char _ => false

/-- The bytes of a number below `0x110000`. -/
def bytesOf (n : Nat) : Bytes :=
  if n < 0x80 then [n.toUInt8]
  else if n < 0x800 then [(0xC0 + n / 0x40).toUInt8, (0x80 + n % 0x40).toUInt8]
  else if n < 0x10000 then
    [(0xE0 + n / 0x1000).toUInt8, (0x80 + n / 0x40 % 0x40).toUInt8, (0x80 + n % 0x40).toUInt8]
  else
    [(0xF0 + n / 0x40000).toUInt8, (0x80 + n / 0x1000 % 0x40).toUInt8,
      (0x80 + n / 0x40 % 0x40).toUInt8, (0x80 + n % 0x40).toUInt8]

/-- A run of code points that cannot be encoded: the first of them, the position of that one, and
the position after the last. -/
structure EncodeError where
  first : CodePoint
  start : Nat
  stop : Nat

/-- The wording of an encoding error. -/
def EncodeError.message (e : EncodeError) : Text :=
  if e.stop = e.start + 1 then
    Text.concat ["'utf-8' codec can't encode character '\\u", Text.hex 4 e.first.code,
      "' in position ", Text.ofNat e.start, ": surrogates not allowed"]
  else
    Text.concat ["'utf-8' codec can't encode characters in position ", Text.ofNat e.start, "-",
      Text.ofNat (e.stop - 1), ": surrogates not allowed"]

/-- The first run of code points that cannot be encoded, in a text at a position. -/
def unencodable? (position : Nat) : Text → Option EncodeError
  | [] => none
  | c :: rest =>
    if isSurrogate c then
      some ⟨c, position, position + ((c :: rest).takeWhile isSurrogate).length⟩
    else unencodable? (position + 1) rest

/-- The bytes of a text. -/
def encode (t : Text) : Except EncodeError Bytes :=
  match unencodable? 0 t with
  | some e => .error e
  | none => .ok (t.flatMap fun c => bytesOf c.code)

/-! ## Decoding -/

/-- Why bytes are no text. -/
inductive Defect where
  | invalidStart
  | invalidContinuation
  | unexpectedEnd
  deriving DecidableEq

/-- The wording of a defect. -/
def Defect.message : Defect → Text
  | invalidStart => "invalid start byte"
  | invalidContinuation => "invalid continuation byte"
  | unexpectedEnd => "unexpected end of data"

/-- A defect: the byte at which the broken sequence starts, the position of that byte, and how
many bytes belong to the broken sequence. -/
structure DecodeError where
  defect : Defect
  byte : UInt8
  start : Nat
  count : Nat

/-- The wording of a decoding error. -/
def DecodeError.message (e : DecodeError) : Text :=
  let place : Text :=
    if e.count = 1 then
      Text.concat ["byte 0x", Text.hex 2 e.byte.toNat, " in position ", Text.ofNat e.start]
    else
      Text.concat ["bytes in position ", Text.ofNat e.start, "-",
        Text.ofNat (e.start + e.count - 1)]
  Text.concat ["'utf-8' codec can't decode ", place, ": ", e.defect.message]

/-- What the bytes after a first byte must be, each within its bounds; nothing for a byte that
cannot be a first one. -/
def followers? (lead : Nat) : Option (List (Nat × Nat)) :=
  let tail := (0x80, 0xBF)
  if lead < 0x80 then some []
  else if lead < 0xC2 then none
  else if lead < 0xE0 then some [tail]
  else if lead = 0xE0 then some [(0xA0, 0xBF), tail]
  else if lead = 0xED then some [(0x80, 0x9F), tail]
  else if lead < 0xF0 then some [tail, tail]
  else if lead = 0xF0 then some [(0x90, 0xBF), tail, tail]
  else if lead < 0xF4 then some [tail, tail, tail]
  else if lead = 0xF4 then some [(0x80, 0x8F), tail, tail]
  else none

/-- The bits of a code point that its first byte holds. -/
def leadBits (lead : Nat) : Nat :=
  if lead < 0x80 then lead else if lead < 0xE0 then lead - 0xC0
  else if lead < 0xF0 then lead - 0xE0 else lead - 0xF0

/-- What stands at the start of some bytes: a code point of a number of further bytes, or a
broken sequence of a number of bytes. -/
inductive Step where
  | point (value further : Nat)
  | broken (defect : Defect) (count : Nat)

/-- Reads the bytes after a first byte against their bounds; `value` collects the bits and
`taken` counts the bytes so far, the first included. -/
def follow (value taken : Nat) : List (Nat × Nat) → Bytes → Step
  | [], _ => .point value (taken - 1)
  | _ :: _, [] => .broken .unexpectedEnd taken
  | (low, high) :: bounds, b :: rest =>
    if low ≤ b.toNat ∧ b.toNat ≤ high then
      follow (value * 0x40 + b.toNat % 0x40) (taken + 1) bounds rest
    else .broken .invalidContinuation taken

/-- What stands at the start of the bytes `lead :: rest`. -/
def step (lead : UInt8) (rest : Bytes) : Step :=
  match followers? lead.toNat with
  | none => .broken .invalidStart 1
  | some bounds => follow (leadBits lead.toNat) 1 bounds rest

/-- Decodes bytes at a position, of which `skip` belong to a code point already read. -/
def decodeFrom (position : Nat) : (skip : Nat) → Bytes → Except DecodeError Text
  | _, [] => .ok []
  | skip + 1, _ :: rest => decodeFrom (position + 1) skip rest
  | 0, b :: rest =>
    match step b rest with
    | .point value further => do
      let text ← decodeFrom (position + 1) further rest
      return .ofCode value :: text
    | .broken defect count => .error ⟨defect, b, position, count⟩

/-- The text of some bytes. -/
def decode (bytes : Bytes) : Except DecodeError Text := decodeFrom 0 0 bytes

end Scaffold.Utf8
