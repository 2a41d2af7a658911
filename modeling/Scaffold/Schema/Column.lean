import Scaffold.Json.Basic

/-!
# Columns and relations

What the schema catalog says about one table: its columns, and the columns that refer to rows of
other tables.

The details of a column are an open map of keywords to JSON values. Of these only the mark of the
primary key is read by anything but diagnostics, and any value that is set counts as the mark
(`Column.isPrimaryKey`), since details may come from elsewhere than the inspection.

A relation is known from the catalog or concluded from a name, and keeps which (`inferred`).
-/

namespace Scaffold.Schema

/-- A column as the catalog reports it. -/
structure Column where
  name : Text
  /-- The declared type, such as `varchar(255)`. -/
  declaredType : Text := []
  /-- Whether the column may be empty. -/
  nullable : Bool := true
  /-- What else the catalog says about the column, by keyword. -/
  details : Ordered Json := []
  deriving Inhabited

/-- Whether the catalog marks the column as part of the primary key. -/
def Column.isPrimaryKey (c : Column) : Bool :=
  ((Ordered.get? c.details "primary_key").map Json.isSet).getD false

/-- A column whose values refer to rows of another table. -/
structure Relation where
  localColumn : Text
  referencedTable : Text
  referencedColumn : Text := "id"
  /-- Whether the relation was concluded from the name of the column. -/
  inferred : Bool := false
  deriving DecidableEq, Inhabited

end Scaffold.Schema
