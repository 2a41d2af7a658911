import Scaffold.Console
import Scaffold.Distinct
import Scaffold.Schema.Catalog
import Scaffold.Schema.Column

/-!
# Inspecting tables

What a run asks the catalog of a database about a table. Without its columns a table cannot be
generated at all; without its keys it can, so that a database that fails to tell them is only warned
about.

The handlers differ in which errors they take, and the differences are kept.

* Columns: an error of the database makes the table unreadable, and so does an empty answer
  (`ColumnsError.unreadable`). Any other error is a breakdown.
* Primary key and definitions of types: an error of the database is as good as an empty answer; any
  other is a breakdown (`orElse`).
* Default schema: likewise (`databaseName`).
* Foreign keys, unique constraints and indexes: an error of the database and a lookup that is not
  offered are both as good as an empty answer, with a warning (`orWarn`). Constraints and indexes
  share one handler: where either fails, neither counts.

The warnings are returned with what was found, and printed by the run, where the console may refuse
them. `Proofs.Run.Breakdown` tells which catalogs a run survives.
-/

namespace Scaffold.Schema

/-- Why the columns of a table cannot be told. -/
inductive ColumnsError where
  /-- The database does not tell them. -/
  | unreadable (table reason : Text)
  /-- The catalog breaks down. -/
  | breakdown (cause : CatalogError)

/-- The wording of the error. -/
def ColumnsError.message : ColumnsError → Text
  | unreadable table reason =>
    Text.concat ["Failed to read schema for '", table, "': ", reason]
  | breakdown cause => cause.message

namespace Catalog

/-- The result of a lookup, or a substitute if the database fails to give it. -/
def orElse {α : Type} (substitute : α) : Except CatalogError α → Except ColumnsError α
  | .ok a => .ok a
  | .error e => if e.isOfDatabase then .ok substitute else .error (.breakdown e)

/-- A column of the catalog as the generator sees it: the definition of its type is preferred to
the type that the catalog makes of it. -/
def column (primaryKey : List Text) (definitions : Ordered Text) (c : CatalogColumn) : Column :=
  { name := c.name
    declaredType := (Ordered.get? definitions c.name).getD c.type.shown
    nullable := c.nullable
    details :=
      [("primary_key", .bool (primaryKey.elem c.name)), ("default", c.default),
       ("autoincrement", c.autoincrement), ("comment", c.comment)] }

/-- The columns of a table, of which there is at least one. -/
def columns (c : Catalog) (table : Text) : Except ColumnsError (List Column) := do
  let reflected ← match c.table? table .columns with
    | .ok t => pure t.columns
    | .error e =>
      if e.isOfDatabase then throw (.unreadable table e.message) else throw (.breakdown e)
  if reflected.isEmpty then throw (.unreadable table "no columns reported")
  let primaryKey ← orElse [] ((c.table? table .primaryKey).map CatalogTable.primaryKey)
  let definitions ← orElse [] (c.definitions table)
  return reflected.map (column primaryKey definitions)

/-- The database whose keys are looked up: the default schema, else the one that the connection
names. -/
def databaseName (c : Catalog) : Except CatalogError (Option Text) := do
  let given : Option Text → Option Text
    | some (ch :: rest) => some (ch :: rest)
    | _ => none
  let schema ← match c.defaultSchema with
    | .ok schema => pure schema
    | .error e => if e.isOfDatabase then pure none else throw e
  return (given schema).or (given c.addressed)

/-- The relations that a foreign key makes; none if it does not name the table referred to. -/
def relationsOf (key : ForeignKey) : List Relation :=
  match key.referredTable with
  | some (ch :: rest) =>
    (key.columns.zip key.referredColumns).map fun (column, referred) =>
      { localColumn := column
        referencedTable := ch :: rest
        referencedColumn :=
          match referred with
          | some (ch :: rest) => ch :: rest
          | _ => "id" }
  | _ => []

/-- The columns that an entry makes unique on its own: the only one that it names. -/
def uniqueColumn? (entry : KeyEntry) : Option Text :=
  match (entry.columns.filterMap id).filter (!·.isEmpty) with
  | [name] => some name
  | _ => none

/-- The result of a lookup that can be done without, or nothing and a warning. -/
def orWarn {α : Type} (warning : Text → Message) :
    Except CatalogError (List α) → Except CatalogError (List α × List Message)
  | .ok found => .ok (found, [])
  | .error e => if e.isTolerable then .ok ([], [warning e.message]) else .error e

/-- The warning that the foreign keys of a table are not known. -/
def relationsWarning (table reason : Text) : Message :=
  .warning (Text.concat ["  Foreign-key lookup failed for '", table, "': ", reason,
    ". Continuing without catalog relations."])

/-- The warning that the unique columns of a table are not known. -/
def uniqueWarning (table reason : Text) : Message :=
  .warning (Text.concat ["  Unique-index lookup failed for '", table, "': ", reason,
    ". Continuing without unique rules."])

/-- The relations of a table, and what is printed about them. -/
def relations (c : Catalog) (database : Option Text) (table : Text) :
    Except CatalogError (List Relation × List Message) :=
  match database with
  | some (ch :: rest) =>
    orWarn (relationsWarning table)
      ((c.tableIn? (ch :: rest) table .foreignKeys).map fun t => t.foreignKeys.flatMap relationsOf)
  | _ => .ok ([], [])

/-- The columns of a table that are unique on their own, sorted, and what is printed about
them. -/
def uniqueColumns (c : Catalog) (database : Option Text) (table : Text) :
    Except CatalogError (List Text × List Message) :=
  match database with
  | some (ch :: rest) =>
    orWarn (uniqueWarning table) do
      let constraints ← (c.tableIn? (ch :: rest) table .uniqueConstraints).map
        CatalogTable.uniqueConstraints
      let indexes ← (c.tableIn? (ch :: rest) table .indexes).map CatalogTable.indexes
      let entries := constraints ++ indexes.filter KeyEntry.unique
      return Text.sorted (distinct (entries.filterMap uniqueColumn?))
  | _ => .ok ([], [])

end Catalog

end Scaffold.Schema
