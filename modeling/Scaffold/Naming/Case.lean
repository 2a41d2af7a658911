import Scaffold.Text.Basic
import Scaffold.Text.Case

/-!
# Spelling of names

Names come as words joined by underscores, hyphens or blanks, or run together with capitals.
`studly` and `camel` run the words together, `snake` joins them by underscores, and `namespaceOf`
spells a directory as a namespace of classes.

`snake` is a sequence of three passes over the text before it is put in lower case, and each is a
recursion with a flag for what it has just seen. Only the letters of ASCII count as capitals and
small letters in the first two; joints and the final lower case are those of Unicode.

The maps are not inverse to one another. Which names go through unchanged is told in
`Proofs.Naming.Snake` and `Proofs.Naming.Camel`.
-/

namespace Scaffold.Naming

/-- What separates the words of a name. -/
def isJoint (c : CodePoint) : Bool := c = '-' || c = '_' || c.isBlank

/-- The words run together, each with its first letter in upper case and the rest as it is. -/
def studly (name : Text) : Text := ((Text.pieces isJoint name).map Text.capitalize).flatten

/-- The words run together, each but the first with its first letter in upper case. -/
def camel (name : Text) : Text := Text.uncapitalize (studly name)

/-- An underscore before each capital that begins a word of small letters and that something
precedes on its line. While `inWord` holds, the small letters of such a word are passed over: none
of them can be what precedes the next. -/
def breakBeforeWords : (inWord : Bool) → Text → Text
  | _, [] => []
  | inWord, c :: rest =>
    if inWord && c.isLower then c :: breakBeforeWords true rest
    else
      match rest with
      | capital :: small :: more =>
        if c ≠ '\n' ∧ capital.isUpper ∧ small.isLower then
          c :: '_' :: capital :: breakBeforeWords true (small :: more)
        else c :: breakBeforeWords false (capital :: small :: more)
      | _ => c :: rest

/-- An underscore between a small letter or digit and a capital after it. -/
def breakBeforeCapitals : Text → Text
  | [] => []
  | c :: rest =>
    match rest with
    | [] => [c]
    | d :: _ =>
      if (c.isLower || c.isDigit) && d.isUpper then c :: '_' :: breakBeforeCapitals rest
      else c :: breakBeforeCapitals rest

/-- One underscore for each run of hyphens and blanks; `inRun` says whether one was just
written. -/
def joinRuns : (inRun : Bool) → Text → Text
  | _, [] => []
  | inRun, c :: rest =>
    if c = '-' ∨ c.isBlank then
      if inRun then joinRuns true rest else '_' :: joinRuns true rest
    else c :: joinRuns false rest

/-- The words in lower case, joined by underscores. -/
def snake (name : Text) : Text :=
  Text.lower (joinRuns false (breakBeforeCapitals (breakBeforeWords false name)))

/-- What separates the segments of a directory. -/
def isSeparator (c : CodePoint) : Bool := c = '/' || c = '\\'

/-- The segments of a directory that name something. -/
def segments (directory : Text) : List Text :=
  (Text.pieces isSeparator directory).filter (· ≠ ".")

/-- The namespace of the classes in a directory. -/
def namespaceOf (directory : Text) : Text := Text.join "\\" ((segments directory).map studly)

end Scaffold.Naming
