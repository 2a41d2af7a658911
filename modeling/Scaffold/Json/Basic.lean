import Scaffold.Ordered
import Scaffold.Number.Decimal
import Scaffold.Text.Quoted

/-!
# JSON values

Structure files, settings and the replies of an inference server are JSON. Whole numbers and numbers
with a fraction or an exponent are kept apart, because settings and messages tell them apart.
Objects are ordered maps.

A value of `Json` need not be one that a text writes: an object may hold a key twice, a binary
number may be none. Readers give objects without repeated keys (`Ordered.put`), and theorems about
reading say so where it matters.

Whether a value is set (`isSet`) is how the program asks whether an option was given, and how it is
shown (`shown`) is what becomes of a value of any kind where a text is wanted. Both are total, so
that an odd value goes through instead of failing.
-/

namespace Scaffold

/-- A JSON value. -/
inductive Json where
  | null
  | bool (b : Bool)
  | int (n : Int)
  | float (x : Float)
  | text (t : Text)
  | list (items : List Json)
  | object (fields : List (Text × Json))
  deriving Inhabited

namespace Json

/-- Whether a value counts as given: neither null, nor false, nor zero, nor empty. -/
def isSet : Json → Bool
  | null => false
  | bool b => b
  | int n => n != 0
  | float x => x != 0.0
  | text t => !t.isEmpty
  | list items => !items.isEmpty
  | object fields => !fields.isEmpty

/-- The word for the kind of a value in messages. -/
def kind : Json → Text
  | null => "NoneType"
  | bool _ => "bool"
  | int _ => "int"
  | float _ => "float"
  | text _ => "str"
  | list _ => "list"
  | object _ => "dict"

mutual

/-- How messages show a value: texts in quotes, and words for null and the truth values. -/
def quoted : Json → Text
  | null => "None"
  | bool true => "True"
  | bool false => "False"
  | int n => Text.ofInt n
  | float x => Number.shortest x
  | text t => t.quoted
  | list items => "[" ++ Text.join ", " (quotedItems items) ++ "]"
  | object fields => "\x7b" ++ Text.join ", " (quotedFields fields) ++ "\x7d"

/-- How messages show the items of a list. -/
def quotedItems : List Json → List Text
  | [] => []
  | v :: rest => quoted v :: quotedItems rest

/-- How messages show the fields of an object. -/
def quotedFields : List (Text × Json) → List Text
  | [] => []
  | (k, v) :: rest => (k.quoted ++ ": " ++ quoted v) :: quotedFields rest

end

/-- The text that a value becomes inside another text: a text itself, anything else as messages
show it. -/
def shown : Json → Text
  | text t => t
  | v => quoted v

end Json

end Scaffold
