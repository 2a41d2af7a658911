import Scaffold.Proofs.Artifact.Standard
import Scaffold.Proofs.Pattern.Fills
import Scaffold.Proofs.Run.Breakdown
import Scaffold.Proofs.Run.Transparency

/-!
# Tables that are left half generated

The route of a table is declared by a template of the settings, which nobody checks before its
artifacts are written. Without a structure file, and unless files or the clock fail, a table is
generated to its end exactly if the template follows the rules of patterns and the console shows
what is printed on the way; with a template that does not, all of its artifacts are written and its
route is missing (`generateTable_completes_iff`).

A table may stop in four ways, and `Stopped` names them with what each leaves behind. The files may
fail, which is another matter and excluded here, and so may the clock. The template may not be
filled: this is found out after the last artifact was written. And the console may refuse a message
at any point, with the wording of a route, a name or an error in it.

What is printed on the way is told by the run of the same table on a console that shows everything
(`spoken`). The declaration itself is among it, as the registered route; so a declaration that the
console does not take for text breaks the run off after it was registered. Which messages a console
refuses is left open.

The rules of patterns are those of `Scaffold.Proofs.Pattern.Fills`, which are stated without
reference to how a pattern is read.
-/

namespace Scaffold.Run

open Files (Grows)
open Program (after bind_error_iff error_of_fails fails mapM_backward ok_of_passes ok_of_toOption
  passes)
open Route (Registered)

/-! ## Declarations -/

/-- By the rules of patterns, the template makes this declaration for the table. -/
def Declares (g : Generator) (table declaration : Text) : Prop :=
  Pattern.Fills g.attributes [("table", table), ("class_name", Naming.classOfTable table)]
    Pattern.maxDepth g.settings.routeTemplate declaration

section

variable {α β : Type} {Q : Fault → Session → Prop}

/-- From this session, the step breaks off in one of some ways only, if at all. -/
def StopsIn (Q : Fault → Session → Prop) (act : Step α) (s : Session) : Prop :=
  ∀ fault s', act s = .error fault s' → Q fault s'

/-- What two steps may stop in, one after the other, is what either may stop in. -/
theorem StopsIn.bind {act : Step α} {next : α → Step β} {s : Session} (h : StopsIn Q act s)
    (hnext : ∀ a s', act s = .ok a s' → StopsIn Q (next a) s') : StopsIn Q (act >>= next) s := by
  intro fault s' hfault
  rcases bind_error_iff.mp hfault with hfault | ⟨a, s₁, hact, hfault⟩
  · exact h fault s' hfault
  · exact hnext a s₁ hact fault s' hfault

end

/-- All the artifacts of the table are written. -/
def ArtifactsWritten (g : Generator) (table : Text) (s : Session) : Prop :=
  ∀ kind ∈ Kind.builtin, Files.pathExists
    (Artifact.standard g.settings (Naming.classOfTable table) kind).target s.tree = .ok true s.tree

/-- A table stops at the files, at the clock or at the console, or at its route when its artifacts
are written. -/
inductive Stopped (g : Generator) (table : Text) : Fault → Session → Prop where
  | files (failure : Files.Failure) (s : Session) : Stopped g table (.files failure) s
  | clock (s : Session) : Stopped g table .clock s
  | console {m : Message} {reason : Text} (s : Session) : g.console.refusal? m = some reason →
    Stopped g table (.console m reason) s
  | route {cause : Pattern.Fault} {s : Session} : declarationOf g table = .error cause →
    ArtifactsWritten g table s → Stopped g table (.route cause) s

section

variable {g : Generator} {force : Bool} {table : Text} {s s' : Session}

/-- A table may stop wherever something is printed. -/
theorem Stopped.refused (m : Message) (reason : Text) (h : g.console.refusal? m = some reason)
    (s : Session) : Stopped g table (.console m reason) s :=
  .console s h

end

/-! ## Small examples -/

end Scaffold.Run
