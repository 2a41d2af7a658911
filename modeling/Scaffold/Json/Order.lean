import Scaffold.Json.Basic

/-!
# Sorting JSON values

Texts are compared with texts, numbers with numbers and lists with lists; any other comparison is an
error that names the kinds of the two values. Values are sorted by inserting one after another into
what is sorted already, after the run with which they begin, so that it is determined which two
values an error names.

Whole and binary numbers are compared exactly (`Magnitude.below`), without making one into the
other. A number that is none is below nothing, and nothing is below it. Truth values count as
numbers.

Lists are compared at the first place where they differ, and equal values are passed over without
being compared: so a list of unlike things may still have its place.
-/

namespace Scaffold.Json

/-- Two values of kinds between which there is no order. -/
structure Incomparable where
  left : Text
  right : Text

/-- The wording of an attempt to compare values without an order. -/
def Incomparable.message (e : Incomparable) : Text :=
  Text.concat ["'<' not supported between instances of '", e.left, "' and '", e.right, "'"]

/-- A number as a value between the infinities. -/
inductive Magnitude where
  | whole (n : Int)
  | binary (x : Float)

/-- The magnitude of a number or a truth value. -/
def magnitude? : Json → Option Magnitude
  | int n => some (.whole n)
  | bool b => some (.whole (if b then 1 else 0))
  | float x => some (.binary x)
  | _ => none

/-- Whether a whole number is below a binary one. -/
def wholeBelow (n : Int) (x : Float) : Bool :=
  match Number.decode x with
  | .nan => false
  | .infinite negative => !negative
  | .finite .. =>
    match Number.floor? x with
    | some f => n < f || (n == f && Float.ofInt f < x)
    | none => false

/-- Whether a binary number is below a whole one. -/
def belowWhole (x : Float) (n : Int) : Bool :=
  match Number.decode x with
  | .nan => false
  | .infinite negative => negative
  | .finite .. =>
    match Number.floor? x with
    | some f => f < n
    | none => false

/-- Whether one magnitude is below another, exactly. -/
def Magnitude.below : Magnitude → Magnitude → Bool
  | .whole n, .whole m => n < m
  | .whole n, .binary x => wholeBelow n x
  | .binary x, .whole n => belowWhole x n
  | .binary x, .binary y => x < y

/-- Whether two magnitudes are one number. -/
def Magnitude.same : Magnitude → Magnitude → Bool
  | .binary x, .binary y => x == y
  | a, .binary y => !(a.below (.binary y)) && !((Magnitude.binary y).below a) && y == y
  | .binary x, b => !((Magnitude.binary x).below b) && !(b.below (.binary x)) && x == x
  | .whole n, .whole m => n == m

mutual

/-- Whether two values are equal; the order of fields does not matter. -/
def same : Json → Json → Bool
  | null, null => true
  | text s, text t => s = t
  | list xs, list ys => sameItems xs ys
  | object fs, object gs => fs.length == gs.length && sameFields fs gs
  | v, w =>
    match magnitude? v, magnitude? w with
    | some a, some b => a.same b
    | _, _ => false

/-- Whether the items of two lists are equal. -/
def sameItems : List Json → List Json → Bool
  | [], [] => true
  | v :: vs, w :: ws => same v w && sameItems vs ws
  | _, _ => false

/-- Whether every field is equal to the one of its name. -/
def sameFields : List (Text × Json) → List (Text × Json) → Bool
  | [], _ => true
  | (k, v) :: rest, gs =>
    (match Ordered.get? gs k with
      | some w => same v w
      | none => false) && sameFields rest gs

end

mutual

/-- Whether one value comes before another. -/
def precedes : Json → Json → Except Incomparable Bool
  | text s, text t => .ok (s ≠ t && Text.le s t)
  | list xs, list ys => precedesItems xs ys
  | v, w =>
    match magnitude? v, magnitude? w with
    | some a, some b => .ok (a.below b)
    | _, _ => .error ⟨v.kind, w.kind⟩

/-- Whether one list of items comes before another: the first items in which they differ decide,
then the length. -/
def precedesItems : List Json → List Json → Except Incomparable Bool
  | _, [] => .ok false
  | [], _ :: _ => .ok true
  | v :: vs, w :: ws => if same v w then precedesItems vs ws else precedes v w

end

/-- Splits values after the longest run in which every value relates to the one before it as
`descending` says. -/
def splitRun (descending : Bool) (previous : Json) :
    List Json → Except Incomparable (List Json × List Json)
  | [] => .ok ([], [])
  | v :: rest => do
    if (← precedes v previous) = descending then
      let (run, others) ← splitRun descending v rest
      return (v :: run, others)
    else return ([], v :: rest)

/-- The run with which values begin, in ascending order, and the others. -/
def leadingRun : List Json → Except Incomparable (List Json × List Json)
  | v :: w :: rest => do
    let descending ← precedes w v
    let (run, others) ← splitRun descending w rest
    return (if descending then (v :: w :: run).reverse else v :: w :: run, others)
  | vs => .ok (vs, [])

/-- How many of the sorted values between two places come before a value or are equal to it,
together with all before the first place. -/
def placeOf (sorted : Array Json) (v : Json) (left right : Nat) : Except Incomparable Nat := do
  if h : left < right then
    let middle := left + (right - left) / 2
    if ← precedes v (sorted.getD middle .null) then placeOf sorted v left middle
    else placeOf sorted v (middle + 1) right
  else return left
termination_by right - left

/-- The values with another in its place among them. -/
def insertSorted (sorted : List Json) (v : Json) : Except Incomparable (List Json) := do
  let place ← placeOf sorted.toArray v 0 sorted.length
  return sorted.take place ++ v :: sorted.drop place

/-- The values in ascending order; equal ones stay in the order in which they came. -/
def sorted (vs : List Json) : Except Incomparable (List Json) := do
  let (run, others) ← leadingRun vs
  others.foldlM insertSorted run

end Scaffold.Json
