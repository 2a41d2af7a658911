import Scaffold.Files.Tree

/-!
# Access to files

The operations that the program performs on a file tree, each with the ways in which it can fail.
An operation gives its result, or a failure, together with the tree it leaves: a failure does not
undo what was done before it. In particular a text that cannot be encoded is noticed only after
the file has been opened, and opening a file for writing empties it. The medium may run short at
the same point: then the file keeps the part of the text that still got there.

The refusals are those that follow from the tree and the path: a name that leads nowhere, a file
where a directory is needed, a directory where a file is, and names and paths that are too long.
Permissions, links and what other programs do at the same time are left out, and so is a medium
that cannot make a directory or an empty file. What a refusal of that kind would leave is what the
refusals here leave: nothing is opened, and no file is different.
-/

namespace Scaffold.Files

open Utf8 (Bytes)

/-- Why the system refuses an operation. -/
inductive Refusal where
  | noEntry
  | exists
  | notDirectory
  | isDirectory
  | nameTooLong
  deriving DecidableEq

/-- The number of a refusal. -/
def Refusal.number : Refusal → Nat
  | noEntry => 2
  | .exists => 17
  | notDirectory => 20
  | isDirectory => 21
  | nameTooLong => 36

/-- The wording of a refusal. -/
def Refusal.message : Refusal → Text
  | noEntry => "No such file or directory"
  | .exists => "File exists"
  | notDirectory => "Not a directory"
  | isDirectory => "Is a directory"
  | nameTooLong => "File name too long"

/-- Why an operation on files fails. -/
inductive Failure where
  /-- The system refuses the path. -/
  | refused (cause : Refusal) (path : Path)
  /-- The path holds U+0000, which ends paths for the system. -/
  | nullInPath
  /-- The path has no encoding. -/
  | unencodablePath (error : Utf8.EncodeError)
  /-- The content of a file is no text. -/
  | undecodable (error : Utf8.DecodeError)
  /-- A text has no encoding. -/
  | unencodable (error : Utf8.EncodeError)
  /-- The medium does not take all of a text. -/
  | medium (message : Text)

/-- The wording of a failure. -/
def Failure.message : Failure → Text
  | refused cause path =>
    Text.concat ["[Errno ", Text.ofNat cause.number, "] ", cause.message, ": ", path.toText.quoted]
  | nullInPath => "embedded null byte"
  | unencodablePath error => error.message
  | undecodable error => error.message
  | unencodable error => error.message
  | medium message => message

/-- An operation on the file tree. -/
abbrev Access (α : Type) := EStateM Failure Tree α

/-! ## Following a path -/

/-- The longest name that the system accepts, in bytes. -/
def maxNameLength : Nat := 255

/-- The longest path that the system accepts, in bytes. -/
def maxPathLength : Nat := 4095

/-- The number of bytes of a name. -/
def byteLength (name : Text) : Nat := (name.flatMap fun c => Utf8.bytesOf c.code).length

/-- Follows names from a directory. Every name but the last must lead to a directory. -/
def Tree.walk (t : Tree) (a : Address) : List Text → Except Refusal Address
  | [] => .ok a
  | name :: rest =>
    if maxNameLength < byteLength name then .error .nameTooLong
    else
      match rest with
      | [] => .ok (Tree.stepTo a name)
      | _ :: _ =>
        match t.node? (Tree.stepTo a name) with
        | some .directory => t.walk (Tree.stepTo a name) rest
        | some (.file _) => .error .notDirectory
        | none => .error .noEntry

/-- A code point that the system passes through as a raw byte. -/
def isRawByte (c : CodePoint) : Bool := 0xDC80 ≤ c.code && c.code ≤ 0xDCFF

/-- The failure that a path brings of itself, whatever the files. -/
def Path.defect? (p : Path) : Option Failure :=
  if p.toText.any (·.code = 0) then some .nullInPath
  else
    match Utf8.unencodable? 0 (p.toText.map fun c => if isRawByte c then .char '?' else c) with
    | some error => some (.unencodablePath error)
    | none => none

/-- The address that a path names. There may be nothing at it. -/
def address (p : Path) : Access Address := fun t =>
  match p.defect? with
  | some failure => .error failure t
  | none =>
    if maxPathLength < byteLength p.toText then .error (.refused .nameTooLong p) t
    else
      match t.walk (t.start p.anchor) p.segments with
      | .ok a => .ok a t
      | .error cause => .error (.refused cause p) t

/-- The path from the root that a path amounts to by its text, whatever stands on the way. -/
def resolve (p : Path) : Access Path := fun t =>
  match p.defect? with
  | some failure => .error failure t
  | none => .ok ⟨.root, p.segments.foldl Tree.stepTo (t.start p.anchor)⟩ t

/-! ## Questions -/

/-- What stands at a path. A path that leads nowhere, or that the system cannot express, has
nothing at it; only a name that is too long is an error even here. -/
def node? (p : Path) : Access (Option Node) := fun t =>
  match address p t with
  | .ok a t => .ok (t.node? a) t
  | .error (.refused .nameTooLong p) t => .error (.refused .nameTooLong p) t
  | .error _ t => .ok none t

/-- Whether something stands at a path. -/
def pathExists (p : Path) : Access Bool := return (← node? p).isSome

/-- Whether a regular file stands at a path. -/
def isFile (p : Path) : Access Bool := return (← node? p) matches some (.file _)

/-- Whether a directory stands at a path. -/
def isDirectory (p : Path) : Access Bool := return (← node? p) matches some .directory

/-! ## Directories -/

/-- Makes one directory, in a directory that is there. -/
def makeDirectory (p : Path) : Access Unit := do
  let a ← address p
  let t ← get
  match t.node? a with
  | some _ => throw (.refused .exists p)
  | none => set (t.set a .directory)

/-- Makes one directory unless it is there already. -/
def ensureDirectory (p : Path) : Access Unit :=
  tryCatch (makeDirectory p) fun failure => do
    if ← isDirectory p then return () else throw failure

/-- Makes a directory and those it stands in, as far as they are missing; the segments are given
from the last to the first. -/
def ensureDirectoriesFrom (anchor : Anchor) : (reversed : List Text) → Access Unit
  | [] => ensureDirectory ⟨anchor, []⟩
  | name :: above =>
    let p : Path := ⟨anchor, (name :: above).reverse⟩
    tryCatch (makeDirectory p) fun
      | .refused .noEntry _ => do
        ensureDirectoriesFrom anchor above
        ensureDirectory p
      | failure => do
        if ← isDirectory p then return () else throw failure

/-- Makes a directory and those it stands in, as far as they are missing. -/
def ensureDirectories (p : Path) : Access Unit :=
  ensureDirectoriesFrom p.anchor p.segments.reverse

/-! ## Contents -/

/-- The content of a regular file. -/
def readBytes (p : Path) : Access Bytes := do
  let a ← address p
  match (← get).node? a with
  | some (.file content) => return content
  | some .directory => throw (.refused .isDirectory p)
  | none => throw (.refused .noEntry p)

/-- The text with every line ended by a line feed alone; `afterReturn` says whether a carriage
return was just replaced, so that a line feed after it belongs to it. -/
def universalLines : (afterReturn : Bool) → Text → Text
  | _, [] => []
  | afterReturn, c :: rest =>
    if c = '\r' then '\n' :: universalLines true rest
    else if c = '\n' ∧ afterReturn then universalLines false rest
    else c :: universalLines false rest

/-- The text of a regular file. A line may end in the file with a line feed, a carriage return,
or both; the text has line feeds. -/
def readText (p : Path) : Access Text := do
  match Utf8.decode (← readBytes p) with
  | .ok t => return universalLines false t
  | .error e => throw (.undecodable e)

/-- Opens a file for writing: it is made if it is missing, and its content is `keep` of what it
held. -/
def openFile (p : Path) (keep : Bytes → Bytes) : Access Address := do
  let a ← address p
  match (← get).node? a with
  | some .directory => throw (.refused .isDirectory p)
  | some (.file content) => modify fun t => t.set a (.file (keep content))
  | none => modify fun t => t.set a (.file (keep []))
  return a

/-- Adds bytes at the end of a file, as far as the medium takes them. -/
def addBytes (a : Address) (bytes : Bytes) : Access Unit := do
  let t ← get
  match t.node? a with
  | some (.file old) =>
    match t.medium a old bytes with
    | none => set (t.set a (.file (old ++ bytes)))
    | some shortage =>
      set (t.set a (.file (old ++ bytes.take shortage.taken)))
      throw (.medium shortage.message)
  | _ => return ()

/-- Adds a text at the end of an opened file. It is encoded as a whole before any of it is
written. -/
def addText (a : Address) (content : Text) : Access Unit := do
  match Utf8.encode content with
  | .error e => throw (.unencodable e)
  | .ok bytes => addBytes a bytes

/-- Replaces the content of a file, making it if it is missing. -/
def writeText (p : Path) (content : Text) : Access Unit := do
  addText (← openFile p fun _ => []) content

/-- Adds a text at the end of a file, making it if it is missing. -/
def appendText (p : Path) (content : Text) : Access Unit := do
  addText (← openFile p id) content

/-- The names in a directory; none if it is no directory. -/
def list (p : Path) : Access (List Text) := do
  if ← isDirectory p then
    let a ← address p
    return (← get).names a
  else return []

end Scaffold.Files
