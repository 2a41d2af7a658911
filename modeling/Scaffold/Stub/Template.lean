import Scaffold.Artifact.Layout
import Scaffold.Artifact.Basic
import Scaffold.Php.Relation
import Scaffold.Php.Rule

/-!
# Filling stubs

A stub is filled by replacing one token after another wherever it stands, also in text that an
earlier replacement brought in. Tokens that are not known stay as they are.

So filling is no single pass over the stub, and a name that looks like a token is replaced in its
turn. `Proofs.Stub.Substitution` tells when filling is the same as one pass that puts a value for
every token: when the values make no token, alone or with what stands around them (`Inert`).

The tokens are a list in the order of replacement (`replacements`), and most of their values are
generated code (`Php`). Where the map of namespaces lacks a kind, the token has the namespace that
the kind has by default.
-/

namespace Scaffold.Stub

/-- A text with each token replaced in turn. -/
def substitute (template : Text) (replacements : Ordered Text) : Text :=
  replacements.foldl (fun content r => Text.replace content r.1 r.2) template

/-- The token of a name: the name between double braces. -/
def token (name : String) : Text := Text.concat ["\x7b\x7b", name, "\x7d\x7d"]

/-- What the namespaces of the built-in kinds are taken to be when a map of namespaces lacks
them. -/
def namespaceOr (namespaces : Ordered Text) (name default : Text) : Text :=
  (Ordered.get? namespaces name).getD default

/-- The namespace that an artifact declares: its own, else that of its name. -/
def declaredNamespace (namespaces : Ordered Text) (a : Artifact) (default : Text) : Text :=
  if a.classNamespace.isEmpty then namespaceOr namespaces a.name default else a.classNamespace

/-- The tokens of the stubs and what they stand for, in the order in which they are replaced. -/
def replacements (namespaces : Ordered Text) (a : Artifact) (m : Schema.Metadata) :
    Ordered Text :=
  let route := Naming.routeParameter m.tableName
  let modelNamespace := namespaceOr namespaces "model" "App\\Models"
  let resourceNamespace := namespaceOr namespaces "resource" "App\\Http\\Resources"
  [(token "ClassName", m.className),
   (token "ArtifactClass", a.className),
   (token "namespace", declaredNamespace namespaces a "App"),
   (token "model_namespace", modelNamespace),
   (token "request_namespace", namespaceOr namespaces "request" "App\\Http\\Requests"),
   (token "resource_namespace", resourceNamespace),
   (token "service_namespace", namespaceOr namespaces "service" "App\\Services"),
   (token "table", m.tableName),
   (token "fillable", Php.literalLines m.fillable),
   (token "hidden", Php.literalLines m.hidden),
   (token "casts", Php.pairLines m.casts),
   (token "relationships_methods", Php.relationMethods m.relations modelNamespace),
   (token "validation_rules", Php.ruleLines m.validationRules m.tableName route),
   (token "fillable_mappings", Php.attributeEntries m.fillable m.hidden),
   (token "relationship_mappings", Php.relationEntries m.relations),
   (token "filterable_array", Php.inlineArray m.fillable),
   (token "filterable_list", Php.literalLines m.fillable),
   (token "route_param", route),
   (token "file_columns_array", Php.inlineArray (Php.uploadColumns m.columns)),
   (token "resource_imports", Php.resourceImports m.relations resourceNamespace a.className)]

end Scaffold.Stub
