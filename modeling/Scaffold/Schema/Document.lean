import Scaffold.Json.Writer
import Scaffold.Schema.Metadata

/-!
# Table metadata as documents

Diagnostic output shows what was derived about a table as JSON. The columns themselves are left out:
what they hold is in the derived parts, and their details may be anything. The document is printed
as it is, without markup.
-/

namespace Scaffold.Schema

/-- A relation as a document. -/
def Relation.toJson (r : Relation) : Json :=
  .object
    [("local_column", .text r.localColumn), ("referenced_table", .text r.referencedTable),
     ("referenced_column", .text r.referencedColumn), ("inferred", .bool r.inferred)]

/-- What is derived about a table as a document; the columns themselves are left out. -/
def Metadata.toJson (m : Metadata) : Json :=
  .object
    [("table_name", .text m.tableName),
     ("class_name", .text m.className),
     ("fillable", .ofTexts m.fillable),
     ("hidden", .ofTexts m.hidden),
     ("casts", .object (m.casts.map fun (name, cast) => (name, .text cast))),
     ("relations", .list (m.relations.map Relation.toJson)),
     ("unique_fields", .ofTexts m.uniqueFields),
     ("validation_rules",
       .object (m.validationRules.map fun (name, tokens) => (name, .ofTexts tokens)))]

end Scaffold.Schema
