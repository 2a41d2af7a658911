import Scaffold.Source.Extraction

/-!
# Declarations in source text

A source text is accepted for a class if it declares a type of exactly that name: one of four
keywords as a word of its own, blanks, and the name, after which neither a word nor a namespace goes
on. `withHeader` makes a source text a complete file.

The text is not parsed. A declaration in a comment or in a literal counts, and one whose name is
split from its keyword by a comment does not. Keywords and names are compared as they are spelled,
although the language that is generated does not tell cases apart.

`declares` looks at the text once, from left to right, and carries along whether a word goes on.
`Proofs.Source.Runs` gives the same condition without a scan: by runs of word characters and blanks.
-/

namespace Scaffold.Source

/-- The keywords that declare a type. -/
def declarationKeywords : List Text := ["class", "interface", "trait", "enum"]

/-- Whether the text begins with the name, and neither a word nor a namespace goes on. -/
def namesHere (name t : Text) : Bool :=
  match Text.dropStart? name t with
  | some [] => true
  | some (c :: _) => !c.isWord && c ≠ '\\'
  | none => false

/-- Whether the text begins with blanks, at least one, and the name. -/
def namesAfterBlanks (name : Text) : Text → Bool
  | [] => false
  | c :: rest => c.isBlank && (namesHere name rest || namesAfterBlanks name rest)

/-- Whether the text begins with a keyword and the name it declares. -/
def declaresHere (name t : Text) : Bool :=
  declarationKeywords.any fun keyword =>
    match Text.dropStart? keyword t with
    | some rest => namesAfterBlanks name rest
    | none => false

/-- Whether the text declares the name, when a word does or does not go on at its start. -/
def declaresFrom (name : Text) : (inWord : Bool) → Text → Bool
  | _, [] => false
  | inWord, c :: rest =>
    (!inWord && declaresHere name (c :: rest)) || declaresFrom name c.isWord rest

/-- Whether the source text declares a type of exactly this name. Nothing declares the empty
name. -/
def declares (source name : Text) : Bool := !name.isEmpty && declaresFrom name false source

/-- The source text as a file: it starts with the opening tag and ends with one line feed. -/
def withHeader (source : Text) : Text :=
  let body := Text.trim source
  let complete :=
    if Text.startsWith body openingTag then body else Text.concat [openingTag, "\n\n", body]
  complete ++ "\n"

end Scaffold.Source
