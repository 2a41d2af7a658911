import Scaffold.Artifact.Basic
import Scaffold.Json.File

/-!
# Structure files

A structure file lists the artifacts to generate for every table, each by the name of its kind or by
an object with that name and options. The list must not be empty. All entries are checked before the
first table, and of several entries with one name the first counts.

What is checked is the shape of an entry alone: a text that is not blank, or an object whose `type`
is one. Its options are kept as they are, as JSON (`Entry.option`), and are looked at when the
artifacts of a table are resolved (`Artifact.resolve`). So an option of the wrong kind is no fault
of the structure; it is found at the first table.

The errors come in the order in which the file is read: it has no object, the object has no list of
artifacts, an entry of the list is none.
-/

namespace Scaffold

open Files (Access Path)

/-- An artifact that is asked for. -/
structure Entry where
  /-- The name of the kind, without blanks around it. -/
  name : Text
  options : List (Text × Json) := []
  deriving Inhabited

namespace Entry

/-- An entry of a name that is not blank. -/
def named? (name : Text) (options : List (Text × Json)) : Option Entry :=
  if Text.isBlank name then none else some ⟨Text.trim name, options⟩

/-- The entry that a value describes. -/
def ofJson? : Json → Option Entry
  | .text name => named? name []
  | .object fields =>
    match Ordered.get? fields "type" with
    | some (.text name) => named? name fields
    | _ => none
  | _ => none

/-- The value of an option; null if it is not there. -/
def option (e : Entry) (name : Text) : Json := (Ordered.get? e.options name).getD .null

end Entry

/-- Why a structure file cannot be used. -/
inductive StructureError where
  | unreadable (path : Path) (error : Json.FileError)
  | noArtifacts (path : Path)
  | invalidEntry (path : Path) (entry : Json)

/-- The wording of the error. -/
def StructureError.message : StructureError → Text
  | unreadable path error =>
    Text.concat ["Failed to load structure file ", path.toText, ": ", error.message]
  | noArtifacts path =>
    Text.concat ["Structure file ", path.toText, " must contain a non-empty 'artifacts' list"]
  | invalidEntry path entry =>
    Text.concat ["Invalid artifact entry in ", path.toText, ": ", entry.quoted]

namespace Structure

/-- The entries that values describe. -/
def entriesOf (path : Path) : List Json → Except StructureError (List Entry)
  | [] => .ok []
  | v :: rest =>
    match Entry.ofJson? v with
    | some e => (entriesOf path rest).map (e :: ·)
    | none => .error (.invalidEntry path v)

/-- The entries in a structure file's object. -/
def ofFields (path : Path) (fields : List (Text × Json)) : Except StructureError (List Entry) :=
  match Ordered.get? fields "artifacts" with
  | some (.list (v :: rest)) => entriesOf path (v :: rest)
  | _ => .error (.noArtifacts path)

/-- The entries in a structure file. -/
def load (path : Path) : Access (Except StructureError (List Entry)) := do
  match ← Json.fieldsAt path with
  | .ok fields => return ofFields path fields
  | .error error => return .error (.unreadable path error)

/-- The entries when no structure file is given: the built-in kinds. -/
def default : List Entry := Kind.builtin.map fun kind => { name := kind.name }

end Structure

end Scaffold
