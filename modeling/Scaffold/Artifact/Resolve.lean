import Scaffold.Artifact.Structure
import Scaffold.Distinct
import Scaffold.Schema.Metadata
import Scaffold.Settings.Document

/-!
# The artifacts of a table

From the entries of the structure follow, for every table, the artifacts to generate: the built-in
kinds first, in their own order, then the custom ones in the order of their entries.

Of several entries with one name only the first is looked at (`distinctOn`), its options included. A
built-in kind takes nothing from its entry but the stub. A custom one may bring a suffix for the
class, a directory with the namespace that the directory spells, a prompt and a stub; without a
directory it goes where the settings put its name.

Two things can be wrong with an entry, and they are errors of different kinds. A `path` that is set
must be a text. The options `prompt` and `template` must be texts if they are not null, and what
does not fit is complained about as in settings (`Checked`). The suffix is never wrong: a value of
any kind is shown as text.
-/

namespace Scaffold

open Files (Path)

/-- Why an entry gives no artifact. -/
inductive ArtifactError where
  /-- The path of an entry is no text. -/
  | pathKind (kind : Text)
  | invalid (complaints : List Complaint)

/-- The wording of the error. -/
def ArtifactError.message : ArtifactError → Text
  | pathKind kind =>
    Text.concat ["unsupported operand type(s) for /: 'PosixPath' and '", kind, "'"]
  | invalid complaints => Complaint.messages complaints

namespace Artifact

/-- The file of a class in a directory. -/
def fileOf (directory : Path) (className : Text) : Path :=
  directory / Path.ofText (className ++ ".php")

/-- A text option of an entry, which may be left out. -/
def textOption (e : Entry) (name : Text) : Checked (Option Text) :=
  Checked.inside name (Checked.optional Checked.text (e.option name))

/-- A checked value, or the error that it is none. -/
def ofChecked {α : Type} : Checked α → Except ArtifactError α
  | .value a => .ok a
  | .complaints cs => .error (.invalid cs)

/-- What the name of a built-in kind adds to the name of a class. -/
def suffixOf (kind : Kind) : Text := if kind = .model then [] else Naming.studly kind.name

/-- The artifact of a built-in kind for the class of a table. -/
def builtin (s : Settings) (base : Text) (kind : Kind) (e : Entry) :
    Except ArtifactError Artifact := do
  let className := base ++ suffixOf kind
  let template ← ofChecked (textOption e "template")
  return {
    kind, name := kind.name, className
    target := fileOf (s.directoryOf kind.name) className
    classNamespace := s.namespaceOf kind.name
    template }

/-- The directory and the namespace of a custom artifact: those that its entry gives, else those
of its name. -/
def placeOf (s : Settings) (e : Entry) : Except ArtifactError (Path × Text) :=
  let given := e.option "path"
  if given.isSet then
    match given with
    | .text t => .ok (s.baseDirectory / Path.ofText t, Naming.namespaceOf t)
    | v => .error (.pathKind v.kind)
  else .ok (s.directoryOf e.name, s.namespaceOf e.name)

/-- What a custom entry adds to the name of a class. -/
def customSuffix (e : Entry) : Text :=
  let given := e.option "suffix"
  if given.isSet then given.shown else Naming.studly e.name

/-- The artifact of a custom entry for the class of a table. -/
def custom (s : Settings) (base : Text) (e : Entry) : Except ArtifactError Artifact := do
  let className := base ++ customSuffix e
  let (directory, classNamespace) ← placeOf s e
  let (prompt, template) ←
    ofChecked (Prod.mk <$> textOption e "prompt" <*> textOption e "template")
  return {
    kind := .custom, name := e.name, className
    target := fileOf directory className
    classNamespace, prompt, template }

/-- The built-in kind of an entry, if it has one. -/
def kindOf? (e : Entry) : Option Kind := Kind.builtin.find? (·.name = e.name)

/-- The artifacts of a table by the class of its rows. -/
def resolve (s : Settings) (entries : List Entry) (base : Text) :
    Except ArtifactError (List Artifact) := do
  let chosen := distinctOn Entry.name entries
  let builtins ← Kind.builtin.filterMapM fun kind =>
    match chosen.find? (·.name = kind.name) with
    | some e => some <$> builtin s base kind e
    | none => pure none
  let customs ← (chosen.filter fun e => (kindOf? e).isNone).mapM (custom s base)
  return builtins ++ customs

end Artifact

end Scaffold
