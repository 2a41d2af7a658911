import Scaffold.Files.Path

/-!
# Artifacts

An artifact is one file to generate for a table. Five kinds are built in and always generated in one
order; any other is a custom kind with a name of its own.

Everything that is fixed before the text of the file is known stands in `Artifact`: what it is for,
which class it must declare and in which namespace, where it is written, and what its entry in the
structure says of prompt and stub. Two artifacts may have one target; nothing here rules it out, and
a later one then finds the file of the earlier.

The kind decides what the prompt asks for and which skeleton stands in for a stub; the name decides
which stub, and under which key directories and namespaces are looked up. For built-in kinds the two
agree.
-/

namespace Scaffold

/-- What an artifact is for. -/
inductive Kind where
  | model
  | request
  | resource
  | service
  | controller
  | custom
  deriving DecidableEq, Inhabited

namespace Kind

/-- The name of a kind. -/
def name : Kind → Text
  | model => "model"
  | request => "request"
  | resource => "resource"
  | service => "service"
  | controller => "controller"
  | custom => "custom"

/-- The kinds with a meaning of their own, in the order in which they are generated. -/
def builtin : List Kind := [model, request, resource, service, controller]

end Kind

/-- One file to generate. -/
structure Artifact where
  kind : Kind
  /-- The name of the kind; of a custom kind, the name it was given. -/
  name : Text
  /-- The class that the file must declare. -/
  className : Text
  /-- Where the file is written. -/
  target : Files.Path
  /-- The namespace of the class; none of its own if it is empty. -/
  classNamespace : Text := []
  /-- The opening of the prompt, for a custom kind. -/
  prompt : Option Text := none
  /-- The name of the stub, if it is not that of the artifact. -/
  template : Option Text := none
  deriving Inhabited

end Scaffold
