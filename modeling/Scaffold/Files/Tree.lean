import Scaffold.Files.Path
import Scaffold.Text.Utf8

/-!
# File trees

The files that a run finds and leaves. A tree maps addresses, which are the names on the way from
the root, to directories and regular files, and has a working directory from which relative paths
start. The root is a directory without being listed.

A path is followed from name to name (`Tree.walk`): every name but the last must lead to a
directory that is there, and `..` leads to the directory above the one reached so far. So a path
through a directory that does not exist names nothing, even if its text could be shortened.

A tree lies on a medium that may take less than is written to it. The medium answers for every
addition to a file, by the file's address, what the file holds and what is added; it may be full
for one file and not for another, and a short addition may end anywhere. By default it takes
everything. Whether a directory or an empty file can be made does not depend on it.

There are no links, no devices and no owners: an address has one name, and what stands at it can
be read and written by everyone.
-/

namespace Scaffold.Files

open Utf8 (Bytes)

/-- The names on the way from the root. -/
abbrev Address := List Text

/-- What stands at an address. -/
inductive Node where
  | directory
  | file (content : Bytes)
  deriving DecidableEq, Inhabited

/-- How a medium fails to take all of what is added to a file. -/
structure Shortage where
  /-- How many of the bytes get to the file. -/
  taken : Nat
  /-- The wording of the error. -/
  message : Text

/-- What becomes of bytes that are added to the file at an address: all of them get there, or the
medium runs short. -/
abbrev Medium := Address → (held added : Bytes) → Option Shortage

/-- The files there are, the directory in which relative paths start, and what the files lie on. -/
structure Tree where
  workingDirectory : Address
  entries : List (Address × Node)
  medium : Medium := fun _ _ _ => none
  deriving Inhabited

namespace Tree

/-- What the entries hold at an address. -/
def lookup (a : Address) : List (Address × Node) → Option Node
  | [] => none
  | (b, node) :: rest => if b = a then some node else lookup a rest

/-- What stands at an address. -/
def node? (t : Tree) (a : Address) : Option Node :=
  if a = [] then some .directory else lookup a t.entries

/-- The entries with a node at an address, in its place if the address is there. -/
def insert (a : Address) (node : Node) : List (Address × Node) → List (Address × Node)
  | [] => [(a, node)]
  | (b, old) :: rest => if b = a then (b, node) :: rest else (b, old) :: insert a node rest

/-- The tree with a node at an address. -/
def set (t : Tree) (a : Address) (node : Node) : Tree :=
  { t with entries := insert a node t.entries }

theorem lookup_insert (a b : Address) (node : Node) (es : List (Address × Node)) :
    lookup b (insert a node es) = if a = b then some node else lookup b es := by
  induction es with
  | nil => by_cases h : a = b <;> simp [insert, lookup, h]
  | cons e rest ih =>
    obtain ⟨c, old⟩ := e
    by_cases hc : c = a
    · subst hc
      by_cases h : c = b <;> simp [insert, lookup, h]
    · by_cases h : c = b
      · subst h
        simp [insert, lookup, hc, Ne.symm hc]
      · simp [insert, lookup, hc, h, ih]

/-- A node is found where it was set, and everything else where it was. -/
theorem node?_set (t : Tree) {a : Address} (ha : a ≠ []) (node : Node) (b : Address) :
    (t.set a node).node? b = if a = b then some node else t.node? b := by
  by_cases hb : b = []
  · subst hb
    simp [node?, ha]
  · simp [node?, set, hb, lookup_insert]

/-- The address one name further, or one name back for `..`. -/
def stepTo (a : Address) (name : Text) : Address :=
  if name = ".." then a.dropLast else a ++ [name]

/-- Where a path starts. -/
def start (t : Tree) (anchor : Anchor) : Address :=
  match anchor with
  | .here => t.workingDirectory
  | .root => []
  | .doubleRoot => []

/-- All regular files with their contents. -/
def files (t : Tree) : List (Address × Bytes) :=
  t.entries.filterMap fun (a, node) =>
    match node with
    | .file content => some (a, content)
    | .directory => none

/-- The names in a directory. -/
def names (t : Tree) (a : Address) : List Text :=
  t.entries.filterMap fun (b, _) =>
    match b.getLast? with
    | some name => if b.dropLast = a then some name else none
    | none => none

/-- The tree with directories wherever nothing stands on the way from one address over further
names. -/
def withDirectories (t : Tree) (base : Address) : List Text → Tree
  | [] => t
  | name :: rest =>
    let next := base ++ [name]
    let t := if (t.node? next).isNone then t.set next .directory else t
    withDirectories t next rest

/-- The tree with a file at an address, and directories on the way to it. -/
def place (t : Tree) (a : Address) (content : Bytes) : Tree :=
  (t.withDirectories [] a.dropLast).set a (.file content)

end Tree

end Scaffold.Files
