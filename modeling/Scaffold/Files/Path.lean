import Scaffold.Text.Basic

/-!
# Paths

A path names a file from the working directory or from the root. Repeated slashes, a slash at the
end and segments `.` mean nothing and are dropped when a path is read; segments `..` are kept,
because what they lead to depends on the files there are.

Two slashes at the start, and exactly two, make a root that is told apart from the other one in
texts, but leads to the same place.

A path that is read, written and read again stays what it is; `Proofs.Files.Spelling` has the
details. Whether the system takes a path at all (no U+0000, an encoding, names that are not too
long) is decided where it is used, in `Files.Access`.
-/

namespace Scaffold.Files

/-- Where a path starts. Exactly two slashes at the start of a path make a root of their own. -/
inductive Anchor where
  | here
  | root
  | doubleRoot
  deriving DecidableEq, Inhabited

/-- A path: where it starts, and the segments from there. -/
structure Path where
  anchor : Anchor
  segments : List Text
  deriving DecidableEq, Inhabited

namespace Path

/-- The segments of a text that mean something. -/
def segmentsOf (t : Text) : List Text :=
  (Text.pieces (fun c => c = '/') t).filter fun s => s ≠ "."

/-- The path that a text writes. -/
def ofText (t : Text) : Path :=
  let slashes := (t.takeWhile fun c : CodePoint => c = '/').length
  let anchor := if slashes = 0 then .here else if slashes = 2 then .doubleRoot else .root
  ⟨anchor, segmentsOf t⟩

instance : Coe Text Path := ⟨ofText⟩

/-- The text of a path; a path without segments from the working directory is a point. -/
def toText (p : Path) : Text :=
  let joined := Text.join "/" p.segments
  match p.anchor with
  | .here => if p.segments.isEmpty then "." else joined
  | .root => "/" ++ joined
  | .doubleRoot => "//" ++ joined

/-- The second path as seen from the first; one that starts at a root stays as it is. -/
def append (p q : Path) : Path :=
  if q.anchor = .here then ⟨p.anchor, p.segments ++ q.segments⟩ else q

instance : HDiv Path Path Path := ⟨append⟩

/-- The directory that a path stands in, by its text. -/
def parent (p : Path) : Path := ⟨p.anchor, p.segments.dropLast⟩

/-- The path as seen from a directory, if its text lies inside. -/
def relativeTo? (p base : Path) : Option Path :=
  if p.anchor = base.anchor then
    if base.segments.isPrefixOf p.segments then
      some ⟨.here, p.segments.drop base.segments.length⟩
    else none
  else none

end Path

end Scaffold.Files
