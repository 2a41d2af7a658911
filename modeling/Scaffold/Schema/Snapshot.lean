import Scaffold.Schema.Catalog

/-!
# Catalog snapshots

A catalog may be kept as a JSON document, so that a run needs no connection to the database. What a
document leaves out is as if the database did not mention it.

Reading a document never fails: a field of the wrong kind counts as left out. Errors of lookups are
kept as pairs of a word and a message, under the name of the lookup, so that a snapshot can stand
for a database that refuses some of them.

Snapshots are this library's own form of input; the program itself asks a database.
-/

namespace Scaffold.Schema.Snapshot

/-- A field of an object. -/
def field? (v : Json) (name : Text) : Option Json :=
  match v with
  | .object fields => Ordered.get? fields name
  | _ => none

/-- A text. -/
def text? : Option Json → Option Text
  | some (.text t) => some t
  | _ => none

/-- The items of a list. -/
def items : Option Json → List Json
  | some (.list vs) => vs
  | _ => []

/-- Texts, and what is none in their place. -/
def texts? (v : Option Json) : List (Option Text) := (items v).map fun i => text? (some i)

/-- A value that counts as given or not. -/
def flag (default : Bool) (v : Option Json) : Bool := (v.map Json.isSet).getD default

/-- The words for the sorts of errors. Any other word is for an error of the database. -/
def errorKinds : List (Text × CatalogErrorKind) :=
  [("argument", .argument), ("not_implemented", .unsupported), ("runtime", .internal),
   ("module", .missingDriver)]

/-- The error under a name: a word for its sort and a message. -/
def error? (errors : Option Json) (name : Text) : Option CatalogError :=
  match (errors.bind fun v => field? v name) with
  | some (.list [.text kind, .text message]) =>
    some ⟨(errorKinds.lookup kind).getD .database, message⟩
  | _ => none

/-- The name of a lookup. -/
def lookupName : Lookup → Text
  | .columns => "columns"
  | .primaryKey => "pk"
  | .definitions => "pragma"
  | .foreignKeys => "foreign_keys"
  | .uniqueConstraints => "unique_constraints"
  | .indexes => "indexes"

/-- The type of a column. -/
def columnType : Option Json → ColumnType
  | some (.text t) => .written t
  | some v => .unwritten ((text? (field? v "class")).getD [])
  | none => .written []

/-- A column. -/
def column (v : Json) : CatalogColumn :=
  let detail (name : Text) : Json := (field? v name).getD .null
  { name := (text? (field? v "name")).getD []
    type := columnType (field? v "type")
    definition := (text? (field? v "ddl")).getD []
    nullable := flag true (field? v "nullable")
    default := detail "default"
    autoincrement := detail "autoincrement"
    comment := detail "comment" }

/-- A foreign key. -/
def foreignKey (v : Json) : ForeignKey :=
  { columns := (texts? (field? v "constrained_columns")).map fun name => name.getD []
    referredTable := text? (field? v "referred_table")
    referredColumns := texts? (field? v "referred_columns") }

/-- A unique constraint. -/
def constraint (v : Json) : KeyEntry := { columns := texts? (field? v "column_names") }

/-- An index. -/
def index (v : Json) : KeyEntry :=
  { columns := texts? (field? v "column_names"), unique := flag false (field? v "unique") }

/-- A table. -/
def table (v : Json) : CatalogTable :=
  { columns := (items (field? v "columns")).map column
    primaryKey := (texts? (field? v "pk")).filterMap id
    foreignKeys := (items (field? v "foreign_keys")).map foreignKey
    uniqueConstraints := (items (field? v "unique_constraints")).map constraint
    indexes := (items (field? v "indexes")).map index
    failing := fun lookup => error? (field? v "errors") (lookupName lookup) }

/-- The catalog in a document. -/
def catalog (v : Json) : Catalog :=
  let errors := field? v "errors"
  { dialect := (text? (field? v "dialect")).getD "sqlite"
    tables := match field? v "tables" with
      | some (.object fields) => fields.map fun (name, t) => (name, table t)
      | _ => []
    defaultSchema := match error? errors "default_schema" with
      | some e => .error e
      | none => .ok (text? (field? v "default_schema"))
    addressed := text? (field? v "url_database")
    schemas := match field? v "schemas" with
      | some (.list vs) => some (vs.filterMap fun i => text? (some i))
      | _ => none
    closed := error? errors "open" }

end Scaffold.Schema.Snapshot
