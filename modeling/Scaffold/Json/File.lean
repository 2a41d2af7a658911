import Scaffold.Files.Access
import Scaffold.Json.Reader

/-!
# JSON files

The files that describe what to generate hold an object. Anything else in a file is taken for the
only field of an object.

A file that is not there, that is no text or that holds no JSON gives an error and not a failure
(`FileError`), with the path in its wording, so that the one who asked can tell about it. Only the
lenient grammar is used for files of this kind.
-/

namespace Scaffold.Json

open Files (Access Path)

/-- Why a file gives no object. -/
inductive FileError where
  | unreadable (failure : Files.Failure)
  | malformed (error : ReadError)

/-- The wording of the error. -/
def FileError.message : FileError → Text
  | unreadable failure => failure.message
  | malformed error => error.message

/-- The name of the field that holds what is no object. -/
def rootField : Text := "_root"

/-- The fields of a value. -/
def fieldsOf : Json → List (Text × Json)
  | object fields => fields
  | v => [(rootField, v)]

/-- The fields of the object in a file. -/
def fieldsAt (p : Path) : Access (Except FileError (List (Text × Json))) := fun t =>
  match Files.readText p t with
  | .error failure t => .ok (.error (.unreadable failure)) t
  | .ok content t =>
    match read .lenient content with
    | .ok v => .ok (.ok (fieldsOf v)) t
    | .error error => .ok (.error (.malformed error)) t

end Scaffold.Json
