import Scaffold.Text.Utf8

/-!
# The inference server

What is asked of a server that runs language models, and what may come of it. Nothing is sent here:
a `Network` says what each request would be answered, and everything that follows from the answers
is a function of it.

There are two requests, one for the list of models and one for the completion of a prompt. An answer
is a status with a body, or a breakdown: no connection, no answer in time, or anything else that
goes wrong on the way, with its wording.

A body has two faces. Its bytes are what JSON is looked for in where the list of models is read
(`Json.textOf?`); its text is what completions and errors are made of, and comes of the bytes by the
headers of the response. As the headers can name any encoding, the two are kept side by side in
`Reply.response` and nothing is assumed about how they hang together. `Reply.ofText` is the common
case.

The headers themselves, redirections and the reuse of connections are left out.
-/

namespace Scaffold.Inference

/-- A server that runs language models. -/
structure Server where
  /-- The address to which the path of a request is added. -/
  root : Text
  /-- How many seconds a reply may take. -/
  timeout : Nat
  deriving DecidableEq, Inhabited

/-- The path of requests for a completion. -/
def completionPath : Text := "/api/generate"

/-- The server at an address, which may also be that of its completions. -/
def Server.ofUrl (url : Text) (timeout : Nat) : Server :=
  let root := Text.trimEnd (fun c : CodePoint => c = '/') url
  ⟨(Text.dropEnd? completionPath root).getD root, timeout⟩

/-- What is asked of a server. -/
inductive Request where
  | models
  /-- The completion of a prompt by a model; `system` directs the model if it is not empty. -/
  | completion (model prompt system : Text)
  deriving DecidableEq, Inhabited

/-- Why no reply comes. -/
inductive Breakdown where
  /-- Nobody accepts the connection. -/
  | unreachable
  | timedOut
  | other (message : Text)
  deriving DecidableEq, Inhabited

/-- What comes of a request. -/
inductive Reply where
  /-- A status with some bytes. The text that is taken for their content depends on what the
  headers say of them, and need not be the one in which JSON is looked for. -/
  | response (status : Nat) (content : Utf8.Bytes) (body : Text)
  | breakdown (cause : Breakdown)
  deriving DecidableEq, Inhabited

/-- A response that is a text in UTF-8. -/
def Reply.ofText (status : Nat) (body : Text) : Reply :=
  .response status ((Utf8.encode body).toOption.getD []) body

/-- Whether a status reports success. -/
def isSuccess (status : Nat) : Bool := 200 ≤ status && status < 300

/-- What every request would be answered. -/
structure Network where
  /-- The answer to the request for the list of models after so many others for it. -/
  models : Nat → Reply
  /-- The answer to the request for the completion of a prompt after those of earlier prompts. -/
  completion : (earlier : List Text) → (prompt : Text) → Reply

/-- The network on which no server can be reached. -/
def Network.unreachable : Network :=
  ⟨fun _ => .breakdown .unreachable, fun _ _ => .breakdown .unreachable⟩

end Scaffold.Inference
