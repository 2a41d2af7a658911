import Scaffold.Distinct
import Scaffold.Schema.Column
import Scaffold.Schema.SemanticType
import Scaffold.Naming.Convention

/-!
# Table metadata

Everything that generated code needs to know about a table, derived from its columns by their names
and types alone: which columns may be assigned, which must not be shown, how values are cast and
validated, and which rows of other tables a row belongs to.

`Metadata.derive` computes the parts one by one, each by a function of its own that looks at the
columns and not at other parts; only the rules need the unique columns as well. That the parts agree
is a theorem (`Proofs.Schema.Coherence`).

Columns with one name count once, by the first of them, wherever columns may be assigned. Relations
come from the catalog if it reports any that start at a column of the table, and are suggested by
names only if it reports none: the two are never mixed.

Lower case is that of Unicode (`Text.lower`), so that a sensitive word is also found where a capital
is no letter of ASCII, as the Kelvin sign in `TOKEN`.
-/

namespace Scaffold.Schema

/-- What is known about a table. -/
structure Metadata where
  tableName : Text
  className : Text
  columns : List Column := []
  /-- The columns that may be assigned, in order. -/
  fillable : List Text := []
  /-- The columns that are never shown. -/
  hidden : List Text := []
  /-- The cast of each assignable column that is no plain string. -/
  casts : Ordered Text := []
  relations : List Relation := []
  /-- The columns whose values are unique on their own, sorted. -/
  uniqueFields : List Text := []
  /-- The rules for each assignable column, as tokens: `optional` or `required` first. -/
  validationRules : Ordered (List Text) := []
  deriving Inhabited

/-- Columns that the application keeps itself. -/
def managedColumns : List Text := ["id", "deleted_at", "created_at", "updated_at"]

/-- Whether a column may be assigned: it has a name, is not kept by the application and is not
part of the primary key. -/
def Column.isFillable (c : Column) : Bool :=
  !c.name.isEmpty && !managedColumns.elem c.name && !c.isPrimaryKey

/-- The columns that may be assigned, the first of each name. -/
def fillableColumns (columns : List Column) : List Column :=
  distinctOn Column.name (columns.filter Column.isFillable)

/-- Words that mark a column as sensitive. -/
def sensitiveTerms : List Text :=
  ["password", "secret", "token", "remember_token", "api_token", "access_token"]

/-- Whether the name of a column, in lower case, holds a word that marks it as sensitive. -/
def isSensitive (name : Text) : Bool := sensitiveTerms.any (Text.contains (Text.lower name))

/-- The sensitive columns, assignable or not. -/
def hiddenNames (columns : List Column) : List Text :=
  distinct ((columns.map Column.name).filter isSensitive)

/-- The meaning of a column's type. -/
def Column.semanticType (c : Column) : SemanticType := .ofDeclared c.declaredType

/-- The casts of the assignable columns; strings need none. -/
def castsOf (columns : List Column) : Ordered Text :=
  ((fillableColumns columns).filter (·.semanticType ≠ .string)).map
    fun c => (c.name, c.semanticType.name)

/-- Rules that the name of a string column brings instead of those of its type. -/
def nameRules : List (Text × List Text) :=
  [("email", ["email", "max:255"]), ("password", ["string", "min:8"])]

/-- The rules of a column's values. -/
def Column.valueRules (c : Column) : List Text :=
  let byName :=
    if c.semanticType = .string then
      nameRules.find? fun (word, _) => Text.contains (Text.lower c.name) word
    else none
  match byName with
  | some (_, tokens) => tokens
  | none => c.semanticType.ruleTokens

/-- The rules of each assignable column: whether it must be given, what its values are, and
whether they are unique. -/
def rulesOf (columns : List Column) (unique : List Text) : Ordered (List Text) :=
  (fillableColumns columns).map fun c =>
    let presence : Text := if c.nullable then "optional" else "required"
    let uniqueness : List Text := if unique.elem c.name then ["unique"] else []
    (c.name, presence :: c.valueRules ++ uniqueness)

/-- The end of a name that suggests a reference. -/
def referenceSuffix : Text := "_id"

/-- The relation that the name of a column suggests: `author_id` refers to `authors`. -/
def Column.suggestedRelation? (c : Column) : Option Relation :=
  match Text.dropEnd? referenceSuffix c.name with
  | some (first :: rest) =>
    some { localColumn := c.name, referencedTable := Naming.pluralize (first :: rest),
           inferred := true }
  | _ => none

/-- The relations of a table: those of the catalog that start at one of its columns, or, if there
are none, those that names suggest. -/
def relationsOf (columns : List Column) (reported : List Relation) : List Relation :=
  match reported.filter fun r => (columns.map Column.name).elem r.localColumn with
  | [] => columns.filterMap Column.suggestedRelation?
  | known => known

/-- The unique columns that the table has, sorted and each once. -/
def uniqueNames (columns : List Column) (unique : List Text) : List Text :=
  Text.sorted (distinct (unique.filter (columns.map Column.name).elem))

/-- The metadata of a table. -/
def Metadata.derive (table : Text) (columns : List Column) (reported : List Relation)
    (unique : List Text) : Metadata :=
  let unique := uniqueNames columns unique
  { tableName := table
    className := Naming.classOfTable table
    columns := columns
    fillable := (fillableColumns columns).map Column.name
    hidden := hiddenNames columns
    casts := castsOf columns
    relations := relationsOf columns reported
    uniqueFields := unique
    validationRules := rulesOf columns unique }

end Scaffold.Schema
