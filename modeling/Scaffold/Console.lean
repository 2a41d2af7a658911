import Scaffold.Text.Basic

/-!
# Console messages

What a run prints, and the console it is printed on. Texts carry the markup of the console: a style
in brackets applies up to the same style after a slash. Only bodies of diagnostic output are printed
as they are.

Names, errors and routes get into the markup unescaped, and a console may refuse a text whose tags
do not match. Which messages it refuses is left to the console (`Console.refusal?`): it is no part
of the program, and nothing here depends on the rules of its markup. A refusal depends on the
message alone, not on what was printed before, and has a wording with which the run breaks off.

What is refused is not shown in part. So everything that a run prints, up to where it broke off, can
be read off its session.

Width, colours and the wrapping of lines are left out: a message is the text with its markup, as it
is handed to the console. `Console.Plain` is what is left of it where the console has no styles.
-/

namespace Scaffold

/-- One thing printed. -/
inductive Message where
  | line (text : Text)
  /-- Text without markup. -/
  | verbatim (text : Text)
  /-- Text in a frame. -/
  | panel (text title border : Text)
  /-- A rule across the console with a title. -/
  | rule (title style : Text)
  | table (title : Text) (columns : List Text) (rows : List (List Text))
  deriving Inhabited

namespace Message

/-- A warning. -/
def warning (text : Text) : Message :=
  line (Text.concat ["[bold yellow]", text, "[/bold yellow]"])

/-- A report of success. -/
def success (text : Text) : Message :=
  line (Text.concat ["[bold green]", text, "[/bold green]"])

/-- A report of failure. -/
def failure (text : Text) : Message := line (Text.concat ["[bold red]", text, "[/bold red]"])

/-- A block of diagnostic output under a title. -/
def diagnostic (title body : Text) : List Message :=
  [line (Text.concat ["[dim]--- ", title, " ---[/dim]"]), verbatim body]

end Message

/-- What becomes of messages: each is shown, or refused with an error of some wording. -/
structure Console where
  refusal? : Message → Option Text

namespace Console

/-- The console that shows everything. -/
def lenient : Console := ⟨fun _ => none⟩

/-- The console shows all the messages. -/
def Shows (c : Console) (ms : List Message) : Prop := ∀ m ∈ ms, c.refusal? m = none

instance (c : Console) (ms : List Message) : Decidable (c.Shows ms) :=
  inferInstanceAs (Decidable (∀ m ∈ ms, c.refusal? m = none))

end Console

end Scaffold
