import Scaffold.Prompt
import Scaffold.Run.Report
import Scaffold.Run.Session
import Scaffold.Source.Extraction
import Scaffold.Stub.Render

/-!
# The source text of an artifact

The backend is asked once. What it writes is used if it declares the class of the artifact;
otherwise, and if the backend has nothing to say, a stub is filled. Either way the text starts with
the opening tag of source files.

The decision is a function of the reply and the class alone (`Verdict.of`), apart from the steps
that print and ask; `Verdict.stages` gives the trail that follows from it. So what is known of a
verdict is known without a run, and a run is followed by case distinction on it.

* Blank: the backend has abstained, or has failed and said so itself. A stub is filled.
* The candidate that `Source.ofReply` takes out of the reply declares the class: it is completed by
  the opening tag (`Source.withHeader`).
* It does not: a warning is printed, and a stub is filled as if nothing had been said.

With diagnostics on, prompt and reply are printed as they are; the text from a stub is not.
-/

namespace Scaffold.Run

open Files (Path)

/-- The directory from which stubs are taken. -/
def Generator.stubs (g : Generator) : Path := g.settings.stubDirectory.getD g.bundledStubs

/-- The namespaces of the artifacts of a table. -/
def Generator.namespaces (g : Generator) : Ordered Text :=
  siblingNamespaces g.settings.namespaces

/-- The prompt for an artifact of a table. -/
def Generator.prompt (g : Generator) (a : Artifact) (m : Schema.Metadata) : Text :=
  Prompt.build g.namespaces a m

/-- What a reply of the backend is good for. -/
inductive Verdict where
  | unanswered
  /-- The reply holds a source text that declares the class. -/
  | accepted (source : Text)
  | rejected
  deriving DecidableEq, Inhabited

namespace Verdict

/-- The verdict on a reply to the prompt for a class. -/
def of (reply className : Text) : Verdict :=
  if Text.isBlank reply then unanswered
  else
    let candidate := Source.ofReply reply
    if Source.declares candidate className then accepted (Source.withHeader candidate) else rejected

/-- The stages through which the verdict leads. -/
def stages : Verdict → List Stage
  | unanswered => [.unanswered, .rendered]
  | accepted _ => [.answered, .normalizing, .accepted]
  | rejected => [.answered, .normalizing, .rejected, .rendered]

end Verdict

/-- The source text of an artifact, and where it comes from. -/
structure Produced where
  text : Text
  verdict : Verdict

/-- A block of diagnostic output if that is wanted. -/
def diagnostics (g : Generator) (title body : Text) : List Message :=
  if g.settings.debug then Message.diagnostic title body else []

/-- The source text of an artifact from its stub. -/
def renderStub (g : Generator) (a : Artifact) (m : Schema.Metadata) : Step Text := do
  let (text, messages) ← Step.files (Stub.render g.stubs g.namespaces a m)
  Step.say g.console messages
  return Source.withHeader text

/-- The line about a reply that is not used. -/
def rejectionLine (a : Artifact) : Message :=
  .warning (Text.concat ["  Backend output for ", a.className, " rejected, using template"])

/-- What there is to say about a reply. -/
def remarks (g : Generator) (a : Artifact) (reply : Text) : Verdict → List Message
  | .unanswered => []
  | .accepted _ => diagnostics g ("backend output: " ++ a.className) reply
  | .rejected => diagnostics g ("backend output: " ++ a.className) reply ++ [rejectionLine a]

/-- The source text of an artifact of a table. -/
def produce (g : Generator) (a : Artifact) (m : Schema.Metadata) : Step Produced := do
  let prompt := g.prompt a m
  Step.say g.console (diagnostics g ("prompt: " ++ a.className) prompt)
  let reply ← Step.askBackend g prompt
  let verdict := Verdict.of reply a.className
  Step.say g.console (remarks g a reply verdict)
  match verdict with
  | .accepted source => return ⟨source, verdict⟩
  | _ => return ⟨← renderStub g a m, verdict⟩

end Scaffold.Run
