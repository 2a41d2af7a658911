import Scaffold.Ordered
import Scaffold.Naming.Case

/-!
# The layout of an application

Where the built-in kinds of artifacts stand unless settings say otherwise, and the namespaces that
follow from it.

There are two ways to the namespace of a kind, and they need not meet. The settings give the
namespace of an artifact from the directory they have for its kind. The sibling namespaces, by which
one file refers to the class of another, start from the default directories and are overridden by
the namespaces that the settings list. `Proofs.Artifact.Namespaces` tells when the two agree.
-/

namespace Scaffold

/-- The directory of each built-in kind. -/
def defaultDirectories : Ordered Text :=
  [("model", "app/Models"),
   ("request", "app/Http/Requests"),
   ("resource", "app/Http/Resources"),
   ("service", "app/Services"),
   ("controller", "app/Http/Controllers/Api")]

/-- The namespace of each directory. -/
def namespacesOf (directories : Ordered Text) : Ordered Text :=
  directories.map fun (name, directory) => (name, Naming.namespaceOf directory)

/-- The default namespaces, overridden and extended by given ones. -/
def siblingNamespaces (given : Ordered Text) : Ordered Text :=
  Ordered.extend (namespacesOf defaultDirectories) given

end Scaffold
