import Scaffold.Json.Basic
import Scaffold.Text.Case

/-!
# The catalog of a database

What a database says about its tables, and where it refuses to say it. A catalog is asked by
lookups, each of which may fail for a reason of its own; that a table is not there is one of the
reasons.

The library through which databases are asked stands behind this interface and is no part of the
program. Of its errors only the sort matters, since handlers tell errors apart by it: those of the
database itself, the one that says that the database does not offer a lookup, and the rest
(`CatalogError`). The wording is kept because messages show it.

A failure belongs to a table and a lookup (`CatalogTable.failing`), so that any combination of
lookups can fail. The catalog does not change while it is asked, and answers a lookup the same every
time.

Column types are known by their written form alone; one that the dialect cannot write goes by the
name of its class.
-/

namespace Scaffold.Schema

/-- Of which sort a failed lookup is. The first three are errors of the database. -/
inductive CatalogErrorKind where
  | database
  | argument
  | absentTable
  | unsupported
  | internal
  | missingDriver
  deriving DecidableEq, Inhabited

/-- Why a lookup fails. -/
structure CatalogError where
  kind : CatalogErrorKind
  message : Text
  deriving DecidableEq, Inhabited

namespace CatalogError

/-- Whether the database itself reports the error. -/
def isOfDatabase (e : CatalogError) : Bool :=
  match e.kind with
  | .database | .argument | .absentTable => true
  | _ => false

/-- Whether the lookup can be done without: the database reports the error, or it does not offer
the lookup at all. -/
def isTolerable (e : CatalogError) : Bool := e.isOfDatabase || e.kind = .unsupported

end CatalogError

/-- The type of a column as the catalog knows it. -/
inductive ColumnType where
  | written (text : Text)
  /-- A type without a written form; it goes by the name of its class. -/
  | unwritten (className : Text)
  deriving DecidableEq, Inhabited

/-- How a type is shown. -/
def ColumnType.shown : ColumnType → Text
  | written text => text
  | unwritten className => Text.upper className

/-- A column in the catalog. -/
structure CatalogColumn where
  name : Text
  type : ColumnType
  /-- The type as the table's definition has it, where the database keeps that; else empty. -/
  definition : Text := []
  nullable : Bool := true
  default : Json := .null
  autoincrement : Json := .null
  comment : Json := .null
  deriving Inhabited

/-- A foreign key: its columns and those they refer to, pairwise. -/
structure ForeignKey where
  columns : List Text := []
  referredTable : Option Text := none
  referredColumns : List (Option Text) := []
  deriving DecidableEq, Inhabited

/-- A unique constraint or an index. A part that is no column has no name. -/
structure KeyEntry where
  columns : List (Option Text) := []
  unique : Bool := true
  deriving DecidableEq, Inhabited

/-- What a catalog can be asked about a table. -/
inductive Lookup where
  | columns
  | primaryKey
  | definitions
  | foreignKeys
  | uniqueConstraints
  | indexes
  deriving DecidableEq, Inhabited

/-- A table in the catalog. -/
structure CatalogTable where
  columns : List CatalogColumn := []
  primaryKey : List Text := []
  foreignKeys : List ForeignKey := []
  uniqueConstraints : List KeyEntry := []
  indexes : List KeyEntry := []
  /-- The lookups that fail. -/
  failing : Lookup → Option CatalogError := fun _ => none

/-- The catalog of a database. -/
structure Catalog where
  dialect : Text := "sqlite"
  tables : Ordered CatalogTable := []
  /-- The schema in which tables are looked up, or why it cannot be told. -/
  defaultSchema : Except CatalogError (Option Text) := .ok none
  /-- The database that the address of the connection names. -/
  addressed : Option Text := none
  /-- The schemas there are, if lookups of keys are confined to some. -/
  schemas : Option (List Text) := none
  /-- Why the database cannot be opened. -/
  closed : Option CatalogError := none

namespace Catalog

/-- The table of a name, for a lookup that does not fail. -/
def table? (c : Catalog) (name : Text) (lookup : Lookup) : Except CatalogError CatalogTable :=
  match Ordered.get? c.tables name with
  | none => .error ⟨.absentTable, name⟩
  | some table =>
    match table.failing lookup with
    | some e => .error e
    | none => .ok table

/-- The table of a name in a schema, for a lookup that does not fail. -/
def tableIn? (c : Catalog) (schema name : Text) (lookup : Lookup) :
    Except CatalogError CatalogTable :=
  match c.schemas with
  | some schemas =>
    if schemas.elem schema then c.table? name lookup
    else .error ⟨.database, "unknown database " ++ schema⟩
  | none => c.table? name lookup

/-- The definitions of the types of a table's columns. Only some dialects keep them, and a table
that is not there has none. -/
def definitions (c : Catalog) (name : Text) : Except CatalogError (Ordered Text) :=
  if c.dialect ≠ "sqlite" then .ok []
  else
    match Ordered.get? c.tables name with
    | none => .ok []
    | some table =>
      match table.failing .definitions with
      | some e => .error e
      | none =>
        .ok (Ordered.ofEntries
          ((table.columns.map fun col => (col.name, col.definition)).filter fun e => e.2 ≠ []))

end Catalog

end Scaffold.Schema
