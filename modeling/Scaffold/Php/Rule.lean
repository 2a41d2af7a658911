import Scaffold.Php.Literal
import Scaffold.Schema.Column
import Scaffold.Text.Fold

/-!
# Validation rules and upload columns in generated code

Rule tokens become literals, but for two: `optional` is called `nullable`, and `unique` becomes a
rule that looks for the value in its table and passes over the row that the route addresses.

Columns that hold uploaded files are told by the ends of their names, in any case of letters. They
belong to the service, which stores the files, and not to the rules.
-/

namespace Scaffold.Php

/-- The rule that a value is unique in its table, apart from the addressed row. -/
def uniqueRule (table column routeParameter : Text) : Text :=
  Text.concat ["Rule::unique(", quote table, ", ", quote column, ")->ignore($this->route(",
    quote routeParameter, "))"]

/-- A rule token of a column as an expression. -/
def ruleExpression (column table routeParameter token : Text) : Text :=
  if token = "optional" then quote "nullable"
  else if token = "unique" then uniqueRule table column routeParameter
  else quote token

/-- The rule tokens of a column as expressions. -/
def ruleExpressions (column : Text) (tokens : List Text) (table routeParameter : Text) :
    List Text :=
  tokens.map (ruleExpression column table routeParameter)

/-- The rules of a table, one column to a line. -/
def ruleLines (rules : Ordered (List Text)) (table routeParameter : Text) : Text :=
  Text.join "\n" (rules.map fun (column, tokens) =>
    Text.concat ["            ", quote column, " => [",
      Text.join ", " (ruleExpressions column tokens table routeParameter), "],"])

/-- The endings of columns that hold uploaded files. -/
def uploadSuffixes : List String := ["_file", "_image", "_avatar", "_document"]

/-- The columns that hold uploaded files: those whose name has such an ending, in any case and
perhaps before a final line feed. -/
def uploadColumns (columns : List Schema.Column) : List Text :=
  (columns.map Schema.Column.name).filter fun name =>
    uploadSuffixes.any fun suffix => Text.endsWithFolded (Text.dropFinalLineFeed name) suffix

end Scaffold.Php
