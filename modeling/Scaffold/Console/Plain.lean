import Scaffold.Console

/-!
# Messages without markup

Where the console cannot show styles, messages are printed as plain lines: tags of styles are left
out, and everything else in brackets stays.

This is how the library's own program prints. It shows every message, whatever it holds, and so is a
console of the lenient kind.
-/

namespace Scaffold.Message

/-- The words of which tags are made. -/
def styleWords : List Text := ["bold", "dim", "red", "green", "yellow", "cyan", "bright_cyan"]

/-- Whether what stands in brackets is a style, or the end of one. -/
def isStyle (inside : Text) : Bool :=
  let words := Text.pieces (fun c => c = ' ') ((Text.dropStart? "/" inside).getD inside)
  !words.isEmpty && words.all styleWords.elem

/-- The text without tags of styles; `skip` code points at its start belong to such a tag. -/
def withoutTags : (skip : Nat) → Text → Text
  | _, [] => []
  | skip + 1, _ :: rest => withoutTags skip rest
  | 0, c :: rest =>
    match Text.cutAt "]" rest with
    | some (inside, _) =>
      if c = '[' ∧ isStyle inside then withoutTags (inside.length + 1) rest
      else c :: withoutTags 0 rest
    | none => c :: withoutTags 0 rest

/-- A row of a table on one line. -/
def plainRow (cells : List Text) : Text := Text.join "  " (cells.map (withoutTags 0))

/-- The lines of a message. -/
def plain : Message → List Text
  | line text => [withoutTags 0 text]
  | verbatim text => [text]
  | panel text title _ => [withoutTags 0 title, withoutTags 0 text]
  | rule title _ => [Text.trim (withoutTags 0 title)]
  | table title columns rows => withoutTags 0 title :: plainRow columns :: rows.map plainRow

end Scaffold.Message
