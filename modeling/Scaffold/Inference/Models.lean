import Scaffold.Inference.Server
import Scaffold.Json.Bytes
import Scaffold.Json.Order

/-!
# The models of a server

A server tells which models it holds. A server that cannot be asked, or answers with anything but an
object, holds none; an object whose list of models is no such list is an error.

The list is read in three steps, and each has its own fault. The items are those of a list, but the
parts of a text or of an object pass for items as well (`modelItems`). Each item must be an object;
of these the names that are set are kept (`namesOf`). The names are sorted, and names of different
kinds have no order (`Json.sorted`).

Only the request and the decoding of the body are guarded against errors: what goes wrong in them is
as good as an empty list (`Reply.models?`). The three steps come after that, and their faults get
out.

JSON is looked for in the bytes of the body, in whichever encoding they are. A model is found if its
name is in the list as a text; a name of another kind is passed over.
-/

namespace Scaffold.Inference

/-- What is wrong with a list of models. -/
inductive ModelsFault where
  /-- It is no list. -/
  | notList (kind : Text)
  /-- One of its items is no object. -/
  | notObject (kind : Text)
  /-- The names have no order. -/
  | unordered (cause : Json.Incomparable)

/-- The wording of a fault. -/
def ModelsFault.message : ModelsFault → Text
  | notList kind => Text.concat ["'", kind, "' object is not iterable"]
  | notObject kind => Text.concat ["'", kind, "' object has no attribute 'get'"]
  | unordered cause => cause.message

/-- The names of models that are set. -/
def namesOf : List Json → Except ModelsFault (List Json)
  | [] => .ok []
  | .object fields :: rest => do
    let names ← namesOf rest
    match Ordered.get? fields "name" with
    | some name => return if name.isSet then name :: names else names
    | none => return names
  | v :: _ => .error (.notObject v.kind)

/-- The items of a list of models. The parts of a text or of an object are texts. -/
def modelItems : Json → Except ModelsFault (List Json)
  | .list items => .ok items
  | .text t => .ok (t.map fun c => .text [c])
  | .object fields => .ok (fields.map fun (name, _) => .text name)
  | v => .error (.notList v.kind)

/-- The sorted names in a list of models. -/
def sortedNames (models : Json) : Except ModelsFault (List Json) := do
  let names ← namesOf (← modelItems models)
  match Json.sorted names with
  | .ok sorted => return sorted
  | .error cause => throw (.unordered cause)

/-- Whether a reply shows that the server can be asked. -/
def Reply.isAvailable : Reply → Bool
  | .response status _ _ => status == 200
  | .breakdown _ => false

/-- The list of models in a reply, if the reply is an object. -/
def Reply.models? : Reply → Option Json
  | .response status content _ =>
    if isSuccess status then
      match (Json.textOf? content).map (Json.read .lenient) with
      | some (.ok (.object fields)) => some ((Ordered.get? fields "models").getD (.list []))
      | _ => none
    else none
  | .breakdown _ => none

/-- The sorted names of the models that a reply lists. -/
def Reply.modelNames (r : Reply) : Except ModelsFault (List Json) :=
  match r.models? with
  | some models => sortedNames models
  | none => .ok []

/-- Whether a reply lists a model. -/
def Reply.hasModel (r : Reply) (model : Text) : Except ModelsFault Bool := do
  return (← r.modelNames).any (Json.same (.text model))

end Scaffold.Inference
