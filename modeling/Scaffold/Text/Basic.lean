import Scaffold.Text.CodePoint
import Scaffold.Text.Class

/-!
# Searching and trimming texts

The operations that the rest of the library cuts texts with. `cutAt` is the central one: it splits a
text around the first occurrence of another, and nothing is lost (`eq_of_cutAt`).

All are recursions over the text, so that proofs can follow them. What is cut at an end is cut at
the start of the reversed text.

Searching for the empty text succeeds everywhere, replacing it inserts before every code point and
at the end, and splitting gives at least one piece. These cases are kept because callers reach them:
an artifact may have an empty class, and a reply may be empty.
-/

namespace Scaffold.Text

/-! ## Ends -/

/-- What follows `start`, if the text begins with it. -/
def dropStart? : (start t : Text) → Option Text
  | [], t => some t
  | _ :: _, [] => none
  | s :: start, c :: t => if s = c then dropStart? start t else none

theorem eq_append_of_dropStart? {start t rest : Text} (h : dropStart? start t = some rest) :
    t = start ++ rest := by
  induction start generalizing t with
  | nil => simpa [dropStart?] using h
  | cons s start ih =>
    cases t with
    | nil => simp [dropStart?] at h
    | cons c t =>
      simp only [dropStart?] at h
      split at h
      next e => rw [e, ih h]; rfl
      next => simp at h

/-- Whether the text begins with `start`. -/
def startsWith (t start : Text) : Bool := (dropStart? start t).isSome

/-- What precedes `tail`, if the text ends with it. -/
def dropEnd? (tail t : Text) : Option Text :=
  (dropStart? tail.reverse t.reverse).map List.reverse

/-- Whether the text ends with `tail`. -/
def endsWith (t tail : Text) : Bool := (dropEnd? tail t).isSome

/-- The text without its last `n` code points. -/
def dropLast (t : Text) (n : Nat) : Text := t.take (t.length - n)

/-- The text without what satisfies `p` at its start. -/
def trimStart (p : CodePoint → Bool) (t : Text) : Text := t.dropWhile p

/-- The text without what satisfies `p` at its end. -/
def trimEnd (p : CodePoint → Bool) (t : Text) : Text := (t.reverse.dropWhile p).reverse

/-- The text without blanks at its ends. -/
def trim (t : Text) : Text := trimEnd CodePoint.isBlank (trimStart CodePoint.isBlank t)

/-- Whether the text holds nothing but blanks. -/
def isBlank (t : Text) : Bool := t.all CodePoint.isBlank

/-- The text without one line feed at its end. -/
def dropFinalLineFeed (t : Text) : Text := (dropEnd? ['\n'] t).getD t

/-! ## Search -/

/-- What precedes and what follows the first occurrence of `needle`. -/
def cutAt (needle : Text) : Text → Option (Text × Text)
  | [] => (dropStart? needle []).map fun rest => ([], rest)
  | c :: t =>
    match dropStart? needle (c :: t) with
    | some rest => some ([], rest)
    | none => (cutAt needle t).map fun (before, after) => (c :: before, after)

theorem eq_of_cutAt {needle t before after : Text} (h : cutAt needle t = some (before, after)) :
    t = before ++ needle ++ after := by
  induction t generalizing before with
  | nil =>
    simp only [cutAt, Option.map_eq_some_iff, Prod.mk.injEq] at h
    obtain ⟨rest, h, rfl, rfl⟩ := h
    simpa using eq_append_of_dropStart? h
  | cons c t ih =>
    simp only [cutAt] at h
    split at h
    next rest hd =>
      obtain ⟨rfl, rfl⟩ := by simpa using h
      simpa using eq_append_of_dropStart? hd
    next =>
      simp only [Option.map_eq_some_iff, Prod.mk.injEq, Prod.exists] at h
      obtain ⟨b, a, h, rfl, rfl⟩ := h
      simp [ih h]

theorem length_after_le {needle t before after : Text} (h : cutAt needle t = some (before, after)) :
    after.length ≤ t.length := by
  simp only [eq_of_cutAt h, List.length_append]
  omega

/-- Whether `needle` occurs in the text. -/
def contains (t needle : Text) : Bool := (cutAt needle t).isSome

/-- The text with every occurrence of `old` replaced, from the left and without overlaps; `skip`
code points at its start belong to an occurrence already replaced. -/
def replaceFrom (old new : Text) : (skip : Nat) → Text → Text
  | _, [] => []
  | skip + 1, _ :: t => replaceFrom old new skip t
  | 0, c :: t =>
    if startsWith (c :: t) old then new ++ replaceFrom old new (old.length - 1) t
    else c :: replaceFrom old new 0 t

/-- The text with every occurrence of `old` replaced by `new`. The empty text occurs before every
code point and at the end. -/
def replace (t old new : Text) : Text :=
  if old.isEmpty then t.foldr (fun c r => new ++ [c] ++ r) new else replaceFrom old new 0 t

/-! ## Splitting and joining -/

/-- The maximal runs of code points outside `p`, those at the ends and between two neighbours
in `p` included, which are empty. -/
def splitWhere (p : CodePoint → Bool) : Text → List Text
  | [] => [[]]
  | c :: t =>
    match splitWhere p t with
    | [] => [[c]]
    | piece :: pieces => if p c then [] :: piece :: pieces else (c :: piece) :: pieces

/-- The non-empty runs of code points outside `p`. -/
def pieces (p : CodePoint → Bool) (t : Text) : List Text :=
  (splitWhere p t).filter (!·.isEmpty)

/-- The texts one after another. -/
def concat (ts : List Text) : Text := ts.flatten

/-- The texts one after another with `separator` between neighbours. -/
def join (separator : Text) : List Text → Text
  | [] => []
  | [t] => t
  | t :: ts => t ++ separator ++ join separator ts

/-- The text followed by spaces up to a width. -/
def padEnd (width : Nat) (t : Text) : Text := t ++ List.replicate (width - t.length) (.char ' ')

/-- A number of zeros. -/
def zeros (n : Nat) : Text := List.replicate n (.char '0')

/-- The decimal digits of a number. -/
def ofNat (n : Nat) : Text := (Nat.toDigits 10 n).map .char

/-- The number that decimal digits of ASCII write. -/
def toNat (digits : Text) : Nat := digits.foldl (fun n c => 10 * n + (c.code - 0x30)) 0

/-- The decimal digits of a number, after a minus sign if it is negative. -/
def ofInt (n : Int) : Text := if n < 0 then '-' :: ofNat n.natAbs else ofNat n.natAbs

end Scaffold.Text
