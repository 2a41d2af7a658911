import Scaffold.Inference.Server
import Scaffold.Json.Reader

/-!
# Completions

What a reply to the request for a completion means. A reply either completes the prompt, or fails it
with a reason, or is defective: it looks like a completion, but a field that describes it is of no
use.

Servers differ in what they send. The completion stands in the field `response` of an object, or in
`generated`; an object without either, and a body that is no JSON, are themselves the completion.

The three outcomes differ in where the program notices them. Failures are caught where the request
is made, and come back as an outcome with a reason (`Failure`). Defects are noticed afterwards, when
the completion is put together from its text and the fields beside it, and nothing catches them
there (`Defect`): the name of the model must be a text, and the duration must be a number, or count
as none. Which defect is noticed when there are two follows the order in which the fields are looked
at: the duration first.

A completion that is not set (null, zero, nothing, an empty list) is the empty text; any other is
shown as the program would show it.
-/

namespace Scaffold.Inference

/-- Why a body holds no completion. -/
inductive Malformed where
  /-- It is JSON of another kind than an object. -/
  | kind (kind : Text)
  /-- It is JSON that is nested too deep to be read. -/
  | tooDeep (error : Json.ReadError)

/-- The wording of a malformed body. -/
def Malformed.message : Malformed → Text
  | kind k => "expected a JSON object, got " ++ k
  | tooDeep error => error.message

/-- A completion and the fields of the object in which it came. -/
structure Content where
  text : Text
  fields : List (Text × Json)

/-- The fields that may hold the completion; the first that is there does. -/
def completionFields : List Text := ["response", "generated"]

/-- The text of the field that holds the completion: none that is not set. -/
def shownIfSet (v : Json) : Text := if v.isSet then v.shown else []

/-- The completion in a body. -/
def Content.ofBody (body : Text) : Except Malformed Content :=
  match Json.read .lenient body with
  | .error error =>
    match error.fault with
    | .tooDeep _ => .error (.tooDeep error)
    | _ => .ok ⟨body, []⟩
  | .ok (.object fields) =>
    match completionFields.findSome? (Ordered.get? fields) with
    | some v => .ok ⟨shownIfSet v, fields⟩
    | none => .ok ⟨body, fields⟩
  | .ok v => .error (.kind v.kind)

/-- The completion of a prompt. -/
structure Completion where
  text : Text
  /-- The model that answered. -/
  model : Text
  /-- How long the server says it took. -/
  milliseconds : Float
  deriving Inhabited

/-- Why a prompt is not completed. -/
inductive Failure where
  | unreachable (root : Text)
  | timedOut (seconds : Nat)
  | unsuccessful (status : Nat) (body : Text)
  | malformed (cause : Malformed)
  | other (message : Text)

/-- How many code points of a body an error shows. -/
def shownBody : Nat := 500

/-- The wording of a failure. -/
def Failure.message : Failure → Text
  | unreachable root =>
    Text.concat ["Cannot connect to Ollama at ", root, ". Is the server running?"]
  | timedOut seconds =>
    Text.concat ["Request to Ollama timed out after ", Text.ofNat seconds, "s."]
  | unsuccessful status body =>
    Text.concat ["Ollama returned HTTP ", Text.ofNat status, ": ", body.take shownBody]
  | malformed cause => "Malformed Ollama response: " ++ cause.message
  | other message => "Unexpected error during Ollama generate: " ++ message

/-- Which field of a completion is of no use. -/
inductive Defect where
  /-- The duration is no number. -/
  | durationKind (kind : Text)
  /-- The duration is a whole number beyond binary64. -/
  | oversizedDuration
  /-- The name of the model is no text. -/
  | modelKind

/-- The wording of a defect. -/
def Defect.message : Defect → Text
  | durationKind kind =>
    Text.concat ["unsupported operand type(s) for /: '", kind, "' and 'float'"]
  | oversizedDuration => "int too large to convert to float"
  | modelKind => "model:string_type"

/-- What a reply to the request for a completion comes to. -/
inductive Outcome where
  | completed (completion : Completion)
  | failed (failure : Failure)
  | defective (defect : Defect)

/-- How many of the server's units of time make a millisecond. -/
def unitsPerMillisecond : Float := 1000000.0

/-- The milliseconds of a duration. -/
def millisecondsOf (v : Json) : Except Defect Float :=
  let scaled (n : Int) : Except Defect Float :=
    let x := Float.ofInt n
    if x.isFinite then .ok (x / unitsPerMillisecond) else .error .oversizedDuration
  match v with
  | .int n => scaled n
  | .bool b => scaled (if b then 1 else 0)
  | .float x => .ok (x / unitsPerMillisecond)
  | v => if v.isSet then .error (.durationKind v.kind) else .ok 0.0

/-- The completion that some content describes; `model` is the model that was asked for. -/
def Content.completion (model : Text) (c : Content) : Except Defect Completion := do
  let milliseconds ← millisecondsOf ((Ordered.get? c.fields "total_duration").getD .null)
  match (Ordered.get? c.fields "model").getD (.text model) with
  | .text name => return ⟨c.text, name, milliseconds⟩
  | _ => throw .modelKind

/-- What a reply of a server to the request for a completion by a model comes to. -/
def Server.outcome (s : Server) (model : Text) : Reply → Outcome
  | .breakdown .unreachable => .failed (.unreachable s.root)
  | .breakdown .timedOut => .failed (.timedOut s.timeout)
  | .breakdown (.other message) => .failed (.other message)
  | .response status _ body =>
    if isSuccess status then
      match Content.ofBody body with
      | .error (.tooDeep error) => .failed (.other error.message)
      | .error cause => .failed (.malformed cause)
      | .ok content =>
        match content.completion model with
        | .ok completion => .completed completion
        | .error defect => .defective defect
    else .failed (.unsuccessful status body)

end Scaffold.Inference
