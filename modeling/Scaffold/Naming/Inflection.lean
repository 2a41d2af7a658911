import Scaffold.Text.Basic
import Scaffold.Text.Case

/-!
# Singular and plural

Only the last word of a name is inflected: the run of ASCII letters and digits at its end, and of a
name in capitals the part from its last capital on. Irregular words are listed, words without a
plural stay as they are, and everything else follows its ending.

The rules are cascades: the first that fits wins, and the order is part of what they mean. They look
at the word in lower case and cut the word as it is, so that what is kept keeps its case.

Some of the rules look past one line feed at the end of a name and some do not
(`Text.dropFinalLineFeed`), as they were written: names with line feeds are no use, but they are
names.

Singular and plural undo one another for most words and not for all. `Proofs.Naming.Plural` and
`Proofs.Naming.Stability` tell for which.
-/

namespace Scaffold.Naming

/-- Irregular words: singular and plural. -/
def irregulars : List (Text × Text) :=
  [("person", "people"), ("man", "men"), ("woman", "women"), ("child", "children"),
   ("tooth", "teeth"), ("foot", "feet"), ("mouse", "mice"), ("goose", "geese"), ("ox", "oxen")]

/-- Words that are their own plural. -/
def uncountables : List Text :=
  ["data", "equipment", "information", "media", "metadata", "money", "news", "series", "species",
   "settings", "feedback", "staff"]

/-- The irregular plural of a word. -/
def irregularPlural? (word : Text) : Option Text := irregulars.lookup word

/-- The word with an irregular plural. -/
def irregularSingular? (word : Text) : Option Text :=
  (irregulars.find? (·.2 = word)).map (·.1)

/-- Splits a name before its last run of letters and digits. One final line feed is left out; a
name with another line feed, or without such a run, is a single word. -/
def splitLastWord (name : Text) : Text × Text :=
  let line := Text.dropFinalLineFeed name
  let word := (line.reverse.takeWhile (·.isAlphanumeric)).reverse
  let before := (line.reverse.dropWhile (·.isAlphanumeric)).reverse
  if word.isEmpty || before.any (· = '\n') then ([], name) else (before, word)

/-- Splits a word before its last capital, if a small letter or digit precedes that and nothing
but letters and digits surrounds them. -/
def splitLastCapital (word : Text) : Text × Text :=
  let tail := word.reverse.takeWhile (!·.isUpper)
  match word.reverse.dropWhile (!·.isUpper) with
  | capital :: previous :: before =>
    if (previous.isLower || previous.isDigit) && word.all (·.isAlphanumeric) then
      ((previous :: before).reverse, capital :: tail.reverse)
    else ([], word)
  | _ => ([], word)

/-- Splits a name before the part that is inflected. -/
def splitInflected (name : Text) : Text × Text :=
  let (before, word) := splitLastWord name
  let (inner, last) := splitLastCapital word
  (before ++ inner, last)

/-- A word in the capitals of another: all of it, its first letter, or none. Both are ASCII. -/
def matchCase (word pattern : Text) : Text :=
  if pattern.any (·.isUpper) && !pattern.any (·.isLower) then Text.upper word
  else match pattern with
    | c :: _ => if c.isUpper then Text.capitalize word else word
    | [] => word

/-- Endings that lose `es` in the singular because of the word before it. -/
def sibilantWords : List Text :=
  ["statuses", "campuses", "bonuses", "viruses", "aliases", "censuses"]

/-- Endings that lose `es` in the singular because of the sound before it. -/
def sibilantEndings : List Text := ["sses", "shes", "ches", "xes", "zes"]

/-- The singular of a regular word. The rules look at the word in lower case and the first that
fits wins. -/
def regularSingular (word : Text) : Text :=
  let small := Text.lower word
  let line := Text.dropFinalLineFeed small
  if Text.endsWith small "ies" && 3 < small.length then Text.dropLast word 3 ++ "y"
  else if sibilantWords.any (Text.endsWith line) then Text.dropLast word 2
  else if sibilantEndings.any (Text.endsWith line) then Text.dropLast word 2
  else if Text.endsWith small "ss" || Text.endsWith small "us" || Text.endsWith small "is" then word
  else if Text.endsWith small "s" then Text.dropLast word 1
  else word

/-- The name with its last word in the singular. -/
def singularize (name : Text) : Text :=
  let (before, word) := splitInflected name
  let small := Text.lower word
  if small.isEmpty || uncountables.elem small then name
  else match irregularSingular? small with
    | some singular => before ++ matchCase singular word
    | none => before ++ regularSingular word

/-- The plural of a regular word. -/
def regularPlural (word : Text) : Text :=
  let small := Text.lower word
  let ends (tail : Text) : Bool := Text.endsWith small tail
  if ends "y" && !(ends "ay" || ends "ey" || ends "iy" || ends "oy" || ends "uy") then
    Text.dropLast word 1 ++ "ies"
  else if ends "s" || ends "x" || ends "z" || ends "ch" || ends "sh" then word ++ "es"
  else word ++ "s"

/-- The name with its last word in the plural. -/
def pluralize (name : Text) : Text :=
  let (before, word) := splitInflected name
  let small := Text.lower word
  if small.isEmpty || uncountables.elem small then name
  else match irregularPlural? small with
    | some plural => before ++ matchCase plural word
    | none => before ++ regularPlural word

end Scaffold.Naming
