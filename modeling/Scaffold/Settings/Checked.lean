import Scaffold.Json.Basic

/-!
# Checked values

Settings and artifacts may be described in JSON. A description is checked as a whole: every field
that does not fit is complained about, in the order of the fields, with the way to it. `Checked`
holds either a value or all complaints, and combining two checked values combines their complaints.

The checks are lenient in the way in which descriptions from the environment need it: a word or a
number may stand for a truth value (`truth`), a text or a binary number without places for a whole
number (`whole`). They are strict about texts, paths and maps: nothing but a text is a text.

Whole numbers in texts follow the rules of the checking library and not those of the environment
(`readWhole`): digits of ASCII, single underscores between them, a point with nothing but zeros
after it. A number is refused for its length before it is looked at.

Complaints are identified by a word for each sort of misfit (`Misfit.word`); the sentences that
explain them are left out.
-/

namespace Scaffold

/-- In which way a field does not fit. -/
inductive Misfit where
  | missing
  | notText
  | notTruth
  | unknownTruth
  | notWhole
  | unknownWhole
  | oversizedWhole
  | fraction
  | notFinite
  | tooSmall
  | notPath
  | notMap
  | unknownWord
  | notObject
  | notJson
  deriving DecidableEq

/-- The word for a misfit. -/
def Misfit.word : Misfit → Text
  | missing => "missing"
  | notText => "string_type"
  | notTruth => "bool_type"
  | unknownTruth => "bool_parsing"
  | notWhole => "int_type"
  | unknownWhole => "int_parsing"
  | oversizedWhole => "int_parsing_size"
  | fraction => "int_from_float"
  | notFinite => "finite_number"
  | tooSmall => "greater_than_equal"
  | notPath => "path_type"
  | notMap => "dict_type"
  | unknownWord => "literal_error"
  | notObject => "model_type"
  | notJson => "json_invalid"

/-- A misfit and the way to it. -/
structure Complaint where
  way : List Text
  misfit : Misfit
  deriving DecidableEq

/-- The wording of a complaint. -/
def Complaint.message (c : Complaint) : Text :=
  Text.concat [Text.join "." c.way, ":", c.misfit.word]

/-- The wording of several complaints. -/
def Complaint.messages (cs : List Complaint) : Text := Text.join "; " (cs.map message)

/-- A value, or all complaints about its description. -/
inductive Checked (α : Type) where
  | value (a : α)
  | complaints (cs : List Complaint)

namespace Checked

variable {α β : Type}

/-- A single complaint. -/
def complain (misfit : Misfit) : Checked α := complaints [⟨[], misfit⟩]

instance : Functor Checked where
  map f
    | value a => value (f a)
    | complaints cs => complaints cs

instance : Applicative Checked where
  pure := value
  seq f x :=
    match f, x () with
    | value f, value a => value (f a)
    | value _, complaints ds => complaints ds
    | complaints cs, value _ => complaints cs
    | complaints cs, complaints ds => complaints (cs ++ ds)

/-- The same with one step before the way of each complaint. -/
def inside (step : Text) : Checked α → Checked α
  | value a => value a
  | complaints cs => complaints (cs.map fun c => { c with way := step :: c.way })

/-- A field of an object: its description is checked if it is there, otherwise it has the default
or is missing. -/
def field (fields : List (Text × Json)) (name : Text) (default : Option α)
    (check : Json → Checked α) : Checked α :=
  inside name <|
    match Ordered.get? fields name with
    | some v => check v
    | none =>
      match default with
      | some a => value a
      | none => complain .missing

/-- A text. -/
def text : Json → Checked Text
  | .text t => value t
  | _ => complain .notText

/-- A value, or none for null. -/
def optional (check : Json → Checked α) : Json → Checked (Option α)
  | .null => value none
  | v => some <$> check v

/-- The words for false, in any case. -/
def falseWords : List Text := ["0", "f", "n", "no", "off", "false"]

/-- The words for true, in any case. -/
def trueWords : List Text := ["1", "t", "y", "yes", "on", "true"]

/-- A text with the capitals of ASCII in lower case. -/
def lowerAscii (t : Text) : Text :=
  t.map fun c => if c.isUpper then .ofCode (c.code + 32) else c

/-- The truth value of a whole number. -/
def truthOfWhole (n : Int) : Checked Bool :=
  if n = 0 then value false else if n = 1 then value true else complain .unknownTruth

/-- Whether a whole number fits a machine word, which is all that may stand for a truth value. -/
def isWord (n : Int) : Bool := -0x8000000000000000 ≤ n && n ≤ 0x7FFFFFFFFFFFFFFF

/-- Whether a binary number that is whole lies between the ends of a machine word. -/
def isInsideWord (n : Int) : Bool := n.natAbs < 0x8000000000000000

/-- A truth value, or a word, a zero or a one for it. -/
def truth : Json → Checked Bool
  | .bool b => value b
  | .int n => if isWord n then truthOfWhole n else complain .notTruth
  | .float x =>
    match Number.floor? x with
    | some n =>
      if Float.ofInt n == x && isInsideWord n then truthOfWhole n else complain .notTruth
    | none => complain .notTruth
  | .text t =>
    if falseWords.elem (lowerAscii t) then value false
    else if trueWords.elem (lowerAscii t) then value true
    else complain .unknownTruth
  | _ => complain .notTruth

/-- The digits of a whole number in which single underscores may stand between digits. -/
def plainDigits? : (afterDigit : Bool) → Text → Option Text
  | afterDigit, [] => if afterDigit then some [] else none
  | afterDigit, c :: rest =>
    if c.isDigit then (plainDigits? true rest).map (c :: ·)
    else if c = '_' ∧ afterDigit then plainDigits? false rest
    else none

/-- The text without a point and zeros at its end. -/
def dropZeroPlaces (t : Text) : Text :=
  match Text.cutAt "." t with
  | some (before, places) => if places.all (· = '0') then before else t
  | none => t

/-- Blanks around a number: all but the information separators. -/
def isPadding (c : CodePoint) : Bool := c.isBlank && !(0x1C ≤ c.code && c.code ≤ 0x1F)

/-- The largest number of digits of a whole number. -/
def maxDigits : Nat := 4300

/-- The whole number that a text writes in ASCII. -/
def wholeOfText (t : Text) : Checked Int :=
  let trimmed := Text.trimEnd isPadding (Text.trimStart isPadding t)
  let (negative, unsigned) := match trimmed with
    | .char '-' :: rest => (true, rest)
    | .char '+' :: rest => (false, rest)
    | rest => (false, rest)
  match plainDigits? false (dropZeroPlaces unsigned) with
  | none => complain .unknownWhole
  | some digits =>
    if maxDigits < digits.length then complain .oversizedWhole
    else
      let n : Int := Text.toNat digits
      value (if negative then -n else n)

/-- A whole number, or anything that stands for one. -/
def whole : Json → Checked Int
  | .int n => value n
  | .bool b => value (if b then 1 else 0)
  | .float x =>
    match Number.floor? x with
    | none => complain .notFinite
    | some n =>
      if Float.ofInt n != x then complain .fraction
      else if isInsideWord n then value n
      else complain .oversizedWhole
  | .text t => wholeOfText t
  | _ => complain .notWhole

/-- A whole number from one on. -/
def positive (v : Json) : Checked Nat :=
  match whole v with
  | value n => if 1 ≤ n then value n.toNat else complain .tooSmall
  | complaints cs => complaints cs

/-- A map of texts. -/
def textMap : Json → Checked (Ordered Text)
  | .object fields => go fields
  | _ => complain .notMap
where
  /-- Checks the entries in order. -/
  go : List (Text × Json) → Checked (Ordered Text)
    | [] => value []
    | (k, v) :: rest => (fun t m => (k, t) :: m) <$> inside k (text v) <*> go rest

end Checked

end Scaffold
