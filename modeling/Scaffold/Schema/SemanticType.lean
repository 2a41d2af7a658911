import Scaffold.Text.Basic
import Scaffold.Text.Case

/-!
# Semantic types

What a declared type means to the generated code. The declared type is searched, in lower case, for
the words of each meaning in a fixed order; the first meaning with a word in it wins. The order
matters: `tinyint(1)` is a truth value before `int` makes it a number.

A word counts wherever it stands, also inside another: `point` holds `int`. The name of a meaning is
also the name of the cast that generated code declares for it, except that strings need none.
-/

namespace Scaffold.Schema

/-- What the values of a column mean. -/
inductive SemanticType where
  | boolean
  | integer
  | float
  | array
  | datetime
  | string
  deriving DecidableEq, Inhabited

namespace SemanticType

/-- The name of a meaning. -/
def name : SemanticType → Text
  | boolean => "boolean"
  | integer => "integer"
  | float => "float"
  | array => "array"
  | datetime => "datetime"
  | string => "string"

/-- The words that announce a meaning, in the order in which they are looked for. -/
def needles : List (SemanticType × List Text) :=
  [(boolean, ["tinyint(1)", "boolean", "bool"]),
   (integer, ["int"]),
   (float, ["decimal", "numeric", "float", "double", "real"]),
   (array, ["json"]),
   (datetime, ["datetime", "timestamp", "date"])]

/-- The meaning of a declared type; a type without any of the words holds strings. -/
def ofDeclared (declared : Text) : SemanticType :=
  let small := Text.lower declared
  match needles.find? fun (_, words) => words.any (Text.contains small) with
  | some (meaning, _) => meaning
  | none => string

/-- The validation rules of a meaning. -/
def ruleTokens : SemanticType → List Text
  | boolean => ["boolean"]
  | integer => ["integer"]
  | float => ["numeric"]
  | array => ["array"]
  | datetime => ["date"]
  | string => ["string", "max:255"]

end SemanticType

end Scaffold.Schema
