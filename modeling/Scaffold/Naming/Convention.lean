import Scaffold.Naming.Case
import Scaffold.Naming.Inflection

/-!
# Naming conventions

How the names of tables, classes and route parameters belong together: a table is the plural of what
its rows are, in snake case; the class is the singular in studly case.

Each convention is a composition of an inflection and a spelling. That they fit together, for the
names that people give, is `Proofs.Naming.Conventions`.
-/

namespace Scaffold.Naming

/-- The class of the rows of a table. -/
def classOfTable (table : Text) : Text := studly (singularize table)

/-- The table that a class conventionally has. -/
def tableOfClass (className : Text) : Text := snake (pluralize className)

/-- The route parameter that addresses one row of a table. -/
def routeParameter (table : Text) : Text := snake (singularize table)

end Scaffold.Naming
