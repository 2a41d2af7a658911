import Scaffold.Console
import Scaffold.Files.Access
import Scaffold.Source.Declaration
import Scaffold.Stub.Skeleton
import Scaffold.Stub.Template

/-!
# Rendering artifacts from stubs

An artifact is rendered from the stub of its name in a directory of stubs. A stub that is missing,
or that does not declare the class once it is filled, gives way to the skeleton of the kind.

Looking for a stub and choosing between it and the skeleton are kept apart: `load?` touches the
files, `choose` is a function of the text that was found. A stub that is there but cannot be read as
text is a failure of the files, and no reason for the skeleton.

The warning that a stub does not declare the class is returned with the text, and printed by the
run.
-/

namespace Scaffold.Stub

open Files (Access Path)

/-- The file of an artifact's stub. -/
def path (directory : Path) (a : Artifact) : Path :=
  let name := match a.template with
    | some (c :: rest) => c :: rest
    | _ => a.name
  directory / Path.ofText (name ++ ".stub")

/-- The text of an artifact's stub, if there is one. -/
def load? (directory : Path) (a : Artifact) : Access (Option Text) := do
  if ← Files.isFile (path directory a) then
    return some (← Files.readText (path directory a))
  else return none

/-- The warning that a stub does not declare the class of an artifact. -/
def notDeclared (a : Artifact) : Message :=
  .warning (Text.concat ["  Template for ", a.name, " does not declare ", a.className,
    "; using minimal skeleton"])

/-- The filled stub if it declares the class, else the filled skeleton; with a warning if there
was a stub. -/
def choose (namespaces : Ordered Text) (a : Artifact) (m : Schema.Metadata)
    (stub : Option Text) : Text × List Message :=
  let values := replacements namespaces a m
  let least := substitute (skeleton a.kind) values
  match stub with
  | none => (least, [])
  | some template =>
    let content := substitute template values
    if Source.declares content a.className then (content, []) else (least, [notDeclared a])

/-- The source text of an artifact from its stub, and what is printed about it. -/
def render (directory : Path) (namespaces : Ordered Text) (a : Artifact) (m : Schema.Metadata) :
    Access (Text × List Message) := do
  return choose namespaces a m (← load? directory a)

/-- A file name without its last suffix. A point at either end of the name begins no suffix. -/
def stem (name : Text) : Text :=
  match (name.reverse.dropWhile fun c : CodePoint => c ≠ '.') with
  | _ :: rest =>
    if rest.isEmpty ∨ Text.endsWith name "." then name else rest.reverse
  | [] => name

/-- The names of the stubs in a directory, sorted. -/
def names (directory : Path) : Access (List Text) := do
  return Text.sorted (((← Files.list directory).filter fun n => Text.endsWith n ".stub").map stem)

end Scaffold.Stub
