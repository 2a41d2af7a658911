import Scaffold.Console
import Scaffold.Inference.Completion
import Scaffold.Settings.Basic

/-!
# Backends

A backend turns a prompt into source text, or abstains with the empty text. What goes wrong on the
way to an inference server is printed, and the backend abstains.

Three kinds are told apart. `none` always abstains. `server` is a model on an inference server; its
outcomes are those of `Inference.Server.outcome`, and each of them gives a text and at most one line
about it (`textOfOutcome`). `custom` is anything else that answers prompts: it is a function of all
prompts so far, so that it may answer the same prompt differently the second time.

A custom backend gives a text for every prompt. What one would break off with has no place here,
since nothing is promised about it.

The line about a failure holds the words of the failure, and with them whatever the server sent. It
is printed by the run (`Run.Step.askBackend`), where the console may refuse it.
-/

namespace Scaffold

open Inference (Network Request Server)

/-- What is asked for the source text of an artifact. -/
inductive Backend where
  /-- Always abstains. -/
  | none
  /-- A model on an inference server. -/
  | server (server : Server) (model : Text)
  /-- Anything else that answers prompts, perhaps in the light of the prompts before. -/
  | custom (name : Text) (answer : (earlier : List Text) → (prompt : Text) → Text)

namespace Backend

/-- The backend that settings ask for. -/
def ofSettings (s : BackendSettings) : Backend :=
  if s.enabled ∧ s.provider ≠ "none" then .server (.ofUrl s.url s.timeout) s.model else none

/-- The name of a backend. -/
def name : Backend → Text
  | none => "none"
  | server .. => "ollama"
  | custom name _ => name

/-- What is printed about a model. -/
def remark (what model message : Text) : Message :=
  .line (Text.concat ["  [yellow]", what, " (", model, "): ", message, "[/yellow]"])

/-- The source text in the outcome of a request to a model, and what is printed about it. -/
def textOfOutcome (model : Text) : Inference.Outcome → Text × List Message
  | .completed completion => (completion.text, [])
  | .failed failure => ([], [remark "Backend error" model failure.message])
  | .defective defect => ([], [remark "Unexpected backend failure" model defect.message])

/-- What comes of asking a backend. -/
structure Answer where
  /-- The source text, or nothing. -/
  text : Text
  messages : List Message := []
  requests : List Request := []

/-- Asks a backend for the source text of a prompt, after those of earlier prompts. -/
def ask (b : Backend) (network : Network) (earlier : List Text) (prompt : Text) : Answer :=
  match b with
  | none => { text := [] }
  | server s model =>
    let outcome := s.outcome model (network.completion earlier prompt)
    let (text, messages) := textOfOutcome model outcome
    { text, messages, requests := [.completion model prompt []] }
  | custom _ answer => { text := answer earlier prompt }

end Backend

end Scaffold
