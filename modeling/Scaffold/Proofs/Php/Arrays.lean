import Scaffold.Php.Rule
import Scaffold.Proofs.Php.Literals

/-!
# Reading arrays

The inside of an array is elements with commas between them, in code that may be broken into lines
anywhere between tokens (`elements?`). What a reader of elements gives back of elements that were
written follows from what it does on one of them, whatever of some kind stands after it (`Reads`):
the elements may be joined by commas (`elements?_join`) or each end with one (`elements?_lines`),
and be arrays or pairs themselves (`Reads.array`, `Reads.pair`). So lists of literals, maps and the
rules of a table are read back as what they were written from (`literals_read_back`).

The readers are part of the statement, not of the program: they say what the generated language
takes a text for. Each consumes all of its text (`whole?`), so that nothing can stand in it besides
what is given back.

`Reads` is relative to what may follow an element, since a name is only told from what comes after
it while a literal ends by itself.
-/

namespace Scaffold.Php

/-! ## Readers -/

/-- The blanks that may stand between the tokens of code. -/
def isSpace (c : CodePoint) : Bool := c = ' ' || c = '\t' || c = '\n' || c = '\r'

/-- The text without blanks at its start. -/
def skipSpace (t : Text) : Text := t.dropWhile isSpace

section

variable {α β : Type}

/-- The elements with which a text begins, with commas between them and perhaps one after the last,
and what follows them. -/
def elements? (element? : Text → Option (α × Text)) (t : Text) : Option (List α × Text) :=
  match element? (skipSpace t) with
  | none => some ([], skipSpace t)
  | some (x, rest) =>
    match Text.dropStart? "," (skipSpace rest) with
    | none => some ([x], skipSpace rest)
    | some more =>
      -- An element that takes nothing of the text would be read for ever.
      if more.length < (skipSpace t).length then
        (elements? element? more).map fun (xs, left) => (x :: xs, left)
      else none
  termination_by t.length
  decreasing_by
    have hskip := (List.dropWhile_suffix (l := t) isSpace).length_le
    unfold skipSpace at *
    omega

/-- The array with which a text begins, and what follows it. -/
def array? (element? : Text → Option (α × Text)) (t : Text) : Option (List α × Text) := do
  let t ← Text.dropStart? "[" t
  let (xs, t) ← elements? element? t
  let t ← Text.dropStart? "]" t
  return (xs, t)

/-- The pair with which a text begins, a literal as its key and a value, and what follows it. -/
def pair? (value? : Text → Option (α × Text)) (t : Text) : Option ((Text × α) × Text) := do
  let (key, t) ← literal? t
  let t ← Text.dropStart? "=>" (skipSpace t)
  let (value, t) ← value? (skipSpace t)
  return ((key, value), t)

/-- What a text holds if nothing follows it. -/
def whole? (read? : Text → Option (α × Text)) (t : Text) : Option α :=
  match read? t with
  | some (x, []) => some x
  | _ => none

/-! ## Reading what was written -/

/-- What is written is read back as what was meant, whatever of some kind follows it; and it does
not begin with a blank. -/
structure Reads (follows : Text → Prop) (read? : Text → Option (α × Text)) (write : β → Text)
    (meant : β → α) : Prop where
  read : ∀ x rest, follows rest → read? (write x ++ rest) = some (meant x, rest)
  solid : ∀ x rest, skipSpace (write x ++ rest) = write x ++ rest

/-- Code in which no element begins and which continues none. -/
structure Ends (element? : Text → Option (α × Text)) (left : Text) : Prop where
  done : element? left = none
  solid : skipSpace left = left
  comma : Text.dropStart? "," left = none

/-- Any text may follow. -/
def Anything : Text → Prop := fun _ => True

/-- A comma may follow, and then any text. -/
def AllowsComma (follows : Text → Prop) : Prop := ∀ more, follows (.char ',' :: more)

variable {element? : Text → Option (α × Text)} {write : β → Text} {meant : β → α}
  {follows : Text → Prop}

theorem skipSpace_append {blanks : Text} (h : ∀ c ∈ blanks, isSpace c = true) (t : Text) :
    skipSpace (blanks ++ t) = skipSpace t := by
  unfold skipSpace
  exact List.dropWhile_append_of_pos h

/-- Blanks before elements are passed over. -/
theorem elements?_blanks {blanks : Text} (h : ∀ c ∈ blanks, isSpace c = true) (t : Text) :
    elements? element? (blanks ++ t) = elements? element? t := by
  rw [elements?, skipSpace_append h, elements?]

/-- Where no element begins, the elements are at their end. -/
theorem elements?_nil {left : Text} (h : Ends element? left) :
    elements? element? left = some ([], left) := by
  rw [elements?, h.solid, h.done]

/-- An element that a comma follows is the first of those that are read. -/
theorem elements?_cons (h : Reads follows element? write meant) (hcomma : AllowsComma follows)
    (x : β) (more : Text) :
    elements? element? (write x ++ .char ',' :: more) =
      (elements? element? more).map fun (xs, left) => (meant x :: xs, left) := by
  have hmore : Text.dropStart? "," (skipSpace (.char ',' :: more)) = some more := rfl
  rw [elements?, h.solid, h.read x _ (hcomma more)]
  dsimp only
  rw [hmore]
  dsimp only
  rw [if_pos (by simp; omega)]

/-- An element without a comma after it is the last. -/
theorem elements?_last (h : Reads follows element? write meant) (x : β) {left : Text}
    (hfollows : follows left) (hleft : Ends element? left) :
    elements? element? (write x ++ left) = some ([meant x], left) := by
  rw [elements?, h.solid, h.read x _ hfollows]
  dsimp only
  rw [hleft.solid, hleft.comma]

/-- Elements that are joined by commas are read back. -/
theorem elements?_join (h : Reads Anything element? write meant) (blanks : Text)
    (hblanks : ∀ c ∈ blanks, isSpace c = true) {left : Text} (hleft : Ends element? left)
    (xs : List β) :
    elements? element? (Text.join (.char ',' :: blanks) (xs.map write) ++ left) =
      some (xs.map meant, left) := by
  induction xs with
  | nil => exact elements?_nil hleft
  | cons x xs ih =>
    cases xs with
    | nil => exact elements?_last h x trivial hleft
    | cons y xs =>
      have hsplit : Text.join (.char ',' :: blanks) ((x :: y :: xs).map write) ++ left =
          write x ++ .char ',' ::
            (blanks ++ (Text.join (.char ',' :: blanks) ((y :: xs).map write) ++ left)) := by
        simp [Text.join]
      rw [hsplit, elements?_cons h (fun _ => trivial), elements?_blanks hblanks, ih]
      rfl

/-- Elements that each end with a comma are read before those that follow them. -/
theorem elements?_lines (h : Reads follows element? write meant) (hcomma : AllowsComma follows)
    (separator blanks : Text) (hseparator : ∀ c ∈ separator, isSpace c = true)
    (hblanks : ∀ c ∈ blanks, isSpace c = true) (xs : List β) (more : Text) :
    elements? element?
        (Text.join separator (xs.map fun x => blanks ++ write x ++ [.char ',']) ++ more) =
      (elements? element? more).map fun (ys, left) => (xs.map meant ++ ys, left) := by
  have hone : ∀ x more, elements? element? (blanks ++ write x ++ [.char ','] ++ more) =
      (elements? element? more).map fun (ys, left) => (meant x :: ys, left) := by
    intro x more
    rw [List.append_assoc, List.append_assoc, elements?_blanks hblanks]
    exact elements?_cons h hcomma x more
  induction xs with
  | nil => exact (Option.map_id' ..).symm
  | cons x xs ih =>
    cases xs with
    | nil => exact hone x more
    | cons y xs =>
      rw [List.map_cons, Text.join, List.append_assoc, List.append_assoc, hone,
        elements?_blanks hseparator, ih, Option.map_map]
      · rfl
      · simp

/-- Arrays of elements that are read back are read back. -/
theorem Reads.array (h : Reads Anything element? write meant)
    (hclose : ∀ rest, element? (.char ']' :: rest) = none) :
    Reads Anything (array? element?)
      (fun xs => Text.concat ["[", Text.join ", " (xs.map write), "]"]) (List.map meant) where
  read := by
    intro xs rest _
    have hends : Ends element? (.char ']' :: rest) := ⟨hclose rest, rfl, rfl⟩
    have hread : elements? element? (Text.join ", " (xs.map write) ++ .char ']' :: rest) =
        some (xs.map meant, .char ']' :: rest) :=
      elements?_join h [.char ' '] (by decide) hends xs
    have hsplit : Text.concat ["[", Text.join ", " (xs.map write), "]"] ++ rest =
        Text.ofString "[" ++ (Text.join ", " (xs.map write) ++ .char ']' :: rest) := by
      simp [Text.concat, Text.ofString]
    have hclosed : Text.dropStart? "]" (.char ']' :: rest) = some rest := rfl
    simp only [array?, hsplit, Text.dropStart?_append, Option.bind_eq_bind, Option.bind_some,
      hread, hclosed, Option.pure_def]
  solid := fun _ _ => rfl

/-- A literal is read back as the text that it stands for. -/
theorem reads_literal : Reads Anything literal? quote id where
  read := fun value rest _ => literal?_quote value rest
  solid := fun _ _ => rfl

/-- The value of an entry may be written in a way that depends on its key. -/
theorem Reads.pair {value? : Text → Option (α × Text)} {write : Text → β → Text}
    {meant : Text → β → α} (h : ∀ key, Reads follows value? (write key) (meant key)) :
    Reads follows (pair? value?)
      (fun e : Text × β => Text.concat [quote e.1, " => ", write e.1 e.2])
      (fun e => (e.1, meant e.1 e.2)) where
  read := by
    intro e rest hrest
    have hsplit : Text.concat [quote e.1, " => ", write e.1 e.2] ++ rest =
        quote e.1 ++ (Text.ofString " => " ++ (write e.1 e.2 ++ rest)) := by
      simp [Text.concat]
    have harrow : ∀ t, Text.dropStart? "=>" (skipSpace (Text.ofString " => " ++ t)) =
        some (.char ' ' :: t) := fun _ => rfl
    have hvalue : skipSpace (.char ' ' :: (write e.1 e.2 ++ rest)) = write e.1 e.2 ++ rest :=
      (h e.1).solid ..
    simp only [pair?, hsplit, literal?_quote, Option.bind_eq_bind, Option.bind_some, harrow,
      hvalue, (h e.1).read _ _ hrest, Option.pure_def]
  solid := fun _ _ => rfl

/-- An element that is the whole text is read back from it. -/
theorem whole?_of_reads (h : Reads Anything element? write meant) (x : β) :
    whole? element? (write x) = some (meant x) := by
  have hread := h.read x [] trivial
  rw [List.append_nil] at hread
  rw [whole?, hread]

end

/-! ## Rules -/

/-- A rule of a column. -/
inductive RuleTerm where
  | literal (token : Text)
  /-- The value is unique in a column of a table, apart from the row that a parameter of the route
  addresses. -/
  | unique (table column parameter : Text)
  deriving DecidableEq

/-- What a rule token means for a column. -/
def RuleTerm.ofToken (table column parameter token : Text) : RuleTerm :=
  if token = "optional" then .literal "nullable"
  else if token = "unique" then .unique table column parameter
  else .literal token

/-- The rule with which a text begins, and what follows it. -/
def rule? (t : Text) : Option (RuleTerm × Text) :=
  match literal? t with
  | some (token, rest) => some (.literal token, rest)
  | none => do
    let t ← Text.dropStart? "Rule::unique(" t
    let (table, t) ← literal? t
    let t ← Text.dropStart? "," t
    let (column, t) ← literal? (skipSpace t)
    let t ← Text.dropStart? ")->ignore($this->route(" t
    let (parameter, t) ← literal? t
    let t ← Text.dropStart? "))" t
    return (.unique table column parameter, t)

/-- A literal is read as a rule of its own. -/
theorem rule?_quote (token rest : Text) :
    rule? (quote token ++ rest) = some (.literal token, rest) := by
  rw [rule?, literal?_quote]

/-- A rule that looks for unique values is read with its table, column and parameter. -/
theorem rule?_uniqueRule (table column parameter rest : Text) :
    rule? (uniqueRule table column parameter ++ rest) =
      some (.unique table column parameter, rest) := by
  have hsplit : uniqueRule table column parameter ++ rest =
      Text.ofString "Rule::unique(" ++ (quote table ++ (Text.ofString "," ++ (.char ' ' ::
        (quote column ++ (Text.ofString ")->ignore($this->route(" ++ (quote parameter ++
          (Text.ofString "))" ++ rest))))))) := by
    simp [uniqueRule, Text.concat, Text.ofString]
  have hword : ∀ t, literal? (Text.ofString "Rule::unique(" ++ t) = none := fun _ => rfl
  have hspace : ∀ t, skipSpace (.char ' ' :: (quote column ++ t)) = quote column ++ t :=
    fun _ => rfl
  simp only [rule?, hsplit, hword, Text.dropStart?_append, Option.bind_eq_bind, Option.bind_some,
    literal?_quote, hspace, Option.pure_def]

/-- Every token is read back as what it stands for. -/
theorem reads_rule (column table parameter : Text) :
    Reads Anything rule? (ruleExpression column table parameter)
      (RuleTerm.ofToken table column parameter) where
  read := by
    intro token rest _
    unfold ruleExpression RuleTerm.ofToken
    split
    next => exact rule?_quote "nullable" rest
    next =>
      split
      next => exact rule?_uniqueRule table column parameter rest
      next => exact rule?_quote token rest
  solid := by
    intro token rest
    unfold ruleExpression
    split
    next => rfl
    next => split <;> rfl

/-! ## Lists, maps and rules -/

/-- At its end a text holds no further element. -/
theorem ends_nil {α : Type} {element? : Text → Option (α × Text)} (h : element? [] = none) :
    Ends element? [] where
  done := h
  solid := rfl
  comma := rfl

/-- Elements on lines of their own are read back, and nothing is left. -/
theorem whole?_elements_join {α β : Type} {element? : Text → Option (α × Text)} {write : β → Text}
    {meant : β → α} (h : Reads Anything element? write meant) (hnil : element? [] = none)
    (xs : List β) :
    whole? (elements? element?) (Text.join itemSeparator (xs.map write)) =
      some (xs.map meant) := by
  have hread : elements? element? (Text.join itemSeparator (xs.map write) ++ []) =
      some (xs.map meant, []) :=
    elements?_join h "\n        " (by decide) (ends_nil hnil) xs
  rw [List.append_nil] at hread
  rw [whole?, hread]

/-- The rules of a table are read back in full. -/
theorem whole?_ruleLines (rules : Ordered (List Text)) (table parameter : Text) :
    whole? (elements? (pair? (array? rule?))) (ruleLines rules table parameter) =
      some (rules.map fun (column, tokens) =>
        (column, tokens.map (RuleTerm.ofToken table column parameter))) := by
  have hrules : ∀ column, Reads Anything (array? rule?)
      (fun tokens =>
        Text.concat ["[", Text.join ", " (ruleExpressions column tokens table parameter), "]"])
      (List.map (RuleTerm.ofToken table column parameter)) :=
    fun column => (reads_rule column table parameter).array fun _ => rfl
  have hlines : ruleLines rules table parameter =
      Text.join "\n" (rules.map fun e => Text.ofString "            " ++
        Text.concat [quote e.1, " => ", Text.concat ["[",
          Text.join ", " (ruleExpressions e.1 e.2 table parameter), "]"]] ++ [.char ',']) := by
    refine congrArg (Text.join "\n") (List.map_congr_left fun e _ => ?_)
    simp [Text.concat, Text.ofString]
  have hread := elements?_lines (Reads.pair hrules) (fun _ => trivial) "\n"
    "            " (by decide) (by decide) rules []
  rw [← hlines, elements?_nil (ends_nil rfl), List.append_nil, Option.map_some] at hread
  dsimp only at hread
  rw [List.append_nil] at hread
  rw [whole?, hread]

/-- Lists of literals, on several lines or on one, are read back as the texts that they were written
from, maps as their pairs, and the rules of a table as its columns with what their tokens mean.
Nothing is left over, whatever the texts hold. -/
theorem literals_read_back :
    (∀ items, whole? (elements? literal?) (literalLines items) = some items) ∧
    (∀ items, whole? (array? literal?) (inlineArray items) = some items) ∧
    (∀ pairs, whole? (elements? (pair? literal?)) (pairLines pairs) = some pairs) ∧
    ∀ rules table parameter,
      whole? (elements? (pair? (array? rule?))) (ruleLines rules table parameter) =
        some (rules.map fun (column, tokens) =>
          (column, tokens.map (RuleTerm.ofToken table column parameter))) := by
  refine ⟨fun items => ?_, fun items => ?_, fun pairs => ?_, whole?_ruleLines⟩
  · have hread := whole?_elements_join reads_literal rfl items
    rwa [List.map_id] at hread
  · have hread := whole?_of_reads (reads_literal.array fun _ => rfl) items
    rwa [List.map_id] at hread
  · have hread := whole?_elements_join (Reads.pair fun _ => reads_literal) rfl pairs
    rwa [List.map_id''] at hread
    exact fun _ => rfl

end Scaffold.Php
