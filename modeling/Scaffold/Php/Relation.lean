import Scaffold.Distinct
import Scaffold.Php.Literal
import Scaffold.Schema.Metadata

/-!
# Relations in generated code

A relation becomes a method of the model, an entry of the resource, and an import of the related
resource. The method is named after the column, or after the related class if the column does not
end in `_id`.

Two relations may get one name: two columns that are spelled alike but for underscores, or two that
do not end in `_id` and refer to one table. The class then declares a method twice.
`Proofs.Php.Methods` says exactly when. Imports are kept apart instead: each related resource is
imported once, and the resource does not import itself.

Names of columns stand in the code as literals where they are values, but as they are where they
name a method or an attribute.
-/

namespace Scaffold.Php

open Schema (Relation)

/-- The name of the method of a relation. -/
def methodName (r : Relation) : Text :=
  match Text.dropEnd? Schema.referenceSuffix r.localColumn with
  | some (first :: rest) => Naming.camel (first :: rest)
  | _ => Naming.camel (Naming.classOfTable r.referencedTable)

/-- The class of the rows that a relation refers to. -/
def relatedClass (r : Relation) : Text := Naming.classOfTable r.referencedTable

/-- The resource of the rows that a relation refers to. -/
def relatedResource (r : Relation) : Text := relatedClass r ++ "Resource"

/-- The method of a relation. -/
def belongsTo (modelNamespace : Text) (r : Relation) : Text :=
  Text.concat
    ["    /**\n     * The ", relatedClass r, " this record belongs to.\n     */\n",
     "    public function ", methodName r, "()\n    \x7b\n",
     "        return $this->belongsTo(\\", modelNamespace, "\\", relatedClass r, "::class, ",
     quote r.localColumn, ", ", quote r.referencedColumn, ");\n    \x7d\n"]

/-- The methods of the relations of a model. -/
def relationMethods (relations : List Relation) (modelNamespace : Text) : Text :=
  Text.join "\n" (relations.map (belongsTo modelNamespace))

/-- What separates the entries of a resource. -/
def entrySeparator : Text := "\n            "

/-- The entries of a resource for its relations. -/
def relationEntries (relations : List Relation) : Text :=
  Text.join entrySeparator (relations.map fun r =>
    Text.concat [quote (methodName r), " => new ", relatedResource r, "($this->whenLoaded(",
      quote (methodName r), ")),"])

/-- The imports of the related resources, each once, without the resource itself. -/
def resourceImports (relations : List Relation) (resourceNamespace ownClass : Text) : Text :=
  let others := (relations.map relatedResource).filter (· ≠ ownClass)
  Text.join "\n" (distinct (others.map fun resource =>
    Text.concat ["use ", resourceNamespace, "\\", resource, ";"]))

/-- The entries of a resource for the attributes that may be shown. -/
def attributeEntries (fillable hidden : List Text) : Text :=
  Text.join entrySeparator ((fillable.filter fun name => !hidden.elem name).map fun name =>
    Text.concat [quote name, " => $this->", name, ","])

end Scaffold.Php
