import Scaffold.Text.Fold

/-!
# The source text inside a reply

A language model wraps source text in fences, surrounds it with chatter, or returns it bare.
`ofReply` picks one candidate, and the first of these that the reply holds wins: the body of a
fenced block tagged `php`, the body of any fenced block, everything from the opening tag on, the
whole reply. The candidate is not yet checked in any way.

A fenced block is described by how it opens: an `Opening` gives what follows it. `firstBlock` finds
the first place where a block opens and later closes. The four openings are tried one after another
over the whole reply, so a block whose opening line ends is preferred to an earlier one that goes on
in its line.

The text from the opening tag on stops at a fence, which is the end of a block whose beginning was
lost. The bare reply does not; `Proofs.Run.Dangling` says when this makes a difference.

Everything is defined by recursion over the text. No pattern language is modelled: each opening says
what it means.
-/

namespace Scaffold.Source

/-- The mark that opens and closes a block. -/
def fence : Text := "```"

/-- A way in which a block can open: what follows the opening at the start of a text, if there is
one. -/
abbrev Opening := Text → Option Text

/-- Whether a word does not go on at the start of the text. -/
def atWordEnd : Text → Bool
  | [] => true
  | c :: _ => !c.isWord

/-- What follows the tag `php`, in any case, after spaces and tabs. -/
def afterTag? (t : Text) : Option Text := do
  let blanks (c : CodePoint) : Bool := c = ' ' || c = '\t'
  let rest ← Text.dropFolded? ['p', 'h', 'p'] (t.dropWhile blanks)
  if atWordEnd rest then some rest else none

/-- What follows the rest of a line that holds no backtick. -/
def afterLine? (t : Text) : Option Text :=
  match t.dropWhile fun c : CodePoint => c ≠ '\n' ∧ c ≠ '`' with
  | .char '\n' :: rest => some rest
  | _ => none

/-- A fence with the tag, whose line ends after it. -/
def taggedLine : Opening := fun t => do afterLine? (← afterTag? (← Text.dropStart? fence t))

/-- A fence with the tag, with the body on the same line. -/
def taggedInline : Opening := fun t => do afterTag? (← Text.dropStart? fence t)

/-- A fence whose line ends after it. -/
def anyLine : Opening := fun t => do afterLine? (← Text.dropStart? fence t)

/-- A fence with the body on the same line. -/
def anyInline : Opening := Text.dropStart? fence

/-- The text up to the next fence, if there is one. -/
def body? (t : Text) : Option Text := (Text.cutAt fence t).map (·.1)

/-- The body of the first block that opens in the given way. -/
def firstBlock (opening : Opening) : Text → Option Text
  | [] => none
  | c :: rest => ((opening (c :: rest)).bind body?).or (firstBlock opening rest)

/-- The body of the first tagged block, else of the first block. A block whose opening line ends
is preferred to one that goes on in its line, wherever they stand. -/
def fenced? (reply : Text) : Option Text :=
  (firstBlock taggedLine reply).or <| (firstBlock taggedInline reply).or <|
    (firstBlock anyLine reply).or (firstBlock anyInline reply)

/-- The tag that opens source text. -/
def openingTag : Text := "<?php"

/-- The text from the first opening tag that is a word of its own. -/
def fromOpeningTag? : Text → Option Text
  | [] => none
  | c :: rest =>
    match Text.dropStart? openingTag (c :: rest) with
    | some after => if atWordEnd after then some (c :: rest) else fromOpeningTag? rest
    | none => fromOpeningTag? rest

/-- The text before the first fence, or all of it. -/
def beforeFence (t : Text) : Text := (body? t).getD t

/-- The candidate source text of a reply, without blanks around it. -/
def ofReply (reply : Text) : Text :=
  match fenced? reply with
  | some body => Text.trim body
  | none =>
    match fromOpeningTag? reply with
    | some source => Text.trim (beforeFence source)
    | none => Text.trim reply

end Scaffold.Source
