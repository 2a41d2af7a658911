import Scaffold.Artifact.Resolve
import Scaffold.Backend
import Scaffold.Console
import Scaffold.Duration
import Scaffold.Inference.Models
import Scaffold.Pattern.Fill
import Scaffold.Schema.Inspection

/-!
# Sessions

A generator is everything that stays the same while tables are generated: settings, the backend, the
catalog, the console, and what network and clock would say. A session is what a run leaves behind:
files, what was printed, and what was asked of whom. A step of a run changes the session and gives a
result, or a fault; a fault undoes nothing.

Database, server, clock and console are parameters, as are the attributes of texts for which a route
template may ask: each is a function from what is asked of it to what it would answer, so that a run
is a function of them. The network answers by what was asked before, the clock by how often it was
read, so neither need say the same thing twice. The catalog does: a run takes the schema to stand
still.

Messages are printed one at a time, and one that the console refuses breaks the run off where it was
to be printed (`Step.say`); those before it have been shown by then. That is the only way in which
printing bears on the rest of a run.

Nothing catches a fault: what the program handles itself (a table without columns, a backend that
fails, a stub that is missing) is a value here, and `Fault` has one constructor for each way in
which the rest gets out of a run.

The parts of the program that a caller may exchange for others (what derives metadata, builds
prompts, fills stubs or writes files) are its own here; only those that reach outside are
parameters. Left out is when a connection is opened and given back.
-/

namespace Scaffold.Run

open Files (Access Path)
open Inference (Network Request)

/-- What stays the same during a run. -/
structure Generator where
  settings : Settings
  backend : Backend
  catalog : Schema.Catalog
  network : Network
  /-- The clock's seconds at each reading. -/
  clock : (reading : Nat) → Float
  /-- The directory of the bundled stubs. -/
  bundledStubs : Path
  console : Console := .lenient
  /-- The attributes of texts for which a route template may ask. -/
  attributes : Pattern.Attributes := .none

/-- What a run leaves behind. -/
structure Session where
  tree : Files.Tree
  /-- The entries of the structure file, once it was read. -/
  entries : Option (List Entry) := none
  messages : List Message := []
  /-- The prompts that the backend was asked. -/
  prompts : List Text := []
  requests : List Request := []
  /-- How often the clock was read. -/
  readings : Nat := 0

/-- Why a run breaks off. -/
inductive Fault where
  | noDatabase
  | structureFile (error : StructureError)
  | catalog (error : Schema.CatalogError)
  | files (failure : Files.Failure)
  | artifact (error : ArtifactError)
  | route (fault : Pattern.Fault)
  | models (fault : Inference.ModelsFault)
  /-- The clock's readings have no difference. -/
  | clock
  /-- The console does not show a message. -/
  | console (message : Message) (reason : Text)

/-- The wording of a fault. -/
def Fault.message : Fault → Text
  | noDatabase => "No database URL configured"
  | structureFile error => error.message
  | catalog error => error.message
  | files failure => failure.message
  | artifact error => error.message
  | route fault => fault.message
  | models fault => fault.message
  | clock => "cannot convert float NaN to integer"
  | console _ reason => reason

/-- A step of a run. -/
abbrev Step (α : Type) := EStateM Fault Session α

namespace Step

variable {α ε : Type}

/-- Prints a message. -/
def print (c : Console) (m : Message) : Step Unit := fun s =>
  match c.refusal? m with
  | none => .ok () { s with messages := s.messages ++ [m] }
  | some reason => .error (.console m reason) s

/-- Prints messages one after another. -/
def say (c : Console) : List Message → Step Unit
  | [] => pure ()
  | m :: ms => do
    print c m
    say c ms

/-- Does something with the files. -/
def files (act : Access α) : Step α := fun s =>
  match act s.tree with
  | .ok a tree => .ok a { s with tree }
  | .error failure tree => .error (.files failure) { s with tree }

/-- The value of a computation, or the fault that its error is. -/
def orFault (fault : ε → Fault) : Except ε α → Step α
  | .ok a => pure a
  | .error e => throw (fault e)

/-- Reads the clock. -/
def readClock (g : Generator) : Step Float := fun s =>
  .ok (g.clock s.readings) { s with readings := s.readings + 1 }

/-- The text of a duration. -/
def duration (seconds : Float) : Step Text :=
  match Duration.render? seconds with
  | some t => pure t
  | none => throw .clock

/-- Asks the inference server for its models. -/
def askModels (g : Generator) : Step Inference.Reply := fun s =>
  .ok (g.network.models (s.requests.count .models))
    { s with requests := s.requests ++ [.models] }

/-- Sends a prompt to the backend. -/
def sendPrompt (g : Generator) (prompt : Text) : Step Backend.Answer := fun s =>
  let answer := g.backend.ask g.network s.prompts prompt
  .ok answer
    { s with
      prompts := s.prompts ++ [prompt]
      requests := s.requests ++ answer.requests }

/-- Asks the backend for the source text of a prompt, and prints what it has to say. -/
def askBackend (g : Generator) (prompt : Text) : Step Text := do
  let answer ← sendPrompt g prompt
  say g.console answer.messages
  return answer.text

end Step

end Scaffold.Run
