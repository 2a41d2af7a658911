import Scaffold.Proofs.Json.Quoting
import Scaffold.Proofs.Text.Search

/-!
# Texts on one line

What is written for a text in ASCII stands on one line and tells the text, whatever follows it: the
quote that ends it is found (`tells_asciiQuoted`). So do the lists of texts (`tells_texts`) and the
maps of texts (`tells_map`), whose parts are told one after another, since a comma is no bracket.
Surrogates are excepted: two that belong together are written like the code point that they stand
for.

`Tells` is the notion that makes this go through: from what is written and anything behind it, both
the value and what is behind can be told. It passes to pairs, to lists with separators, and to
brackets around them, which is all that prompts are made of.

Nothing is read here. That values can be told is a statement about writing alone, and no reader has
to be named.
-/

namespace Scaffold.Json

/-- What is written stands on one line, and tells what it was written for, whatever follows. -/
structure Tells {α : Type} (write : α → Text) (p : α → Prop) : Prop where
  visible {a : α} {c : CodePoint} : p a → c ∈ write a → Visible c
  told {a b : α} {rest rest' : Text} : p a → p b → write a ++ rest = write b ++ rest' →
    a = b ∧ rest = rest'

/-- No code point of the text is a surrogate. -/
def Whole (t : Text) : Prop := ∀ c ∈ t, Utf8.isSurrogate c = false

instance (t : Text) : Decidable (Whole t) := inferInstanceAs (Decidable (∀ _ ∈ t, _))

/-! ## Texts -/

/-- A quoted text with more after it is its pieces, a quote, and the rest. -/
theorem asciiQuoted_append (t rest : Text) :
    asciiQuoted t ++ rest = .char '"' :: (t.flatMap asciiPoint ++ .char '"' :: rest) := by
  rw [asciiQuoted_eq, List.cons_append, List.append_assoc]
  rfl

/-- A reader finds the end of the text, and the text. -/
theorem tells_asciiQuoted : Tells asciiQuoted Whole where
  visible := fun h => visible_of_mem_asciiQuoted h
  told := by
    intro s t rest rest' hs ht heq
    rw [asciiQuoted_append, asciiQuoted_append] at heq
    have hread := readInside_pieces 0 (fun c hc => isPiece_asciiPoint .strict (hs c hc)) rest
    rw [(List.cons.inj heq).2,
      readInside_pieces 0 (fun c hc => isPiece_asciiPoint .strict (ht c hc)) rest'] at hread
    obtain ⟨rfl, rfl⟩ := Prod.mk.inj (Except.ok.inj hread)
    exact ⟨rfl, rfl⟩

/-! ## Parts one after another -/

section

variable {α : Type} {write : α → Text} {p : α → Prop}

/-- What tells a value is written for no other. -/
theorem Tells.inj (h : Tells write p) {a b : α} (ha : p a) (hb : p b)
    (heq : write a = write b) : a = b := by
  have hsame : write a ++ [] = write b ++ [] := by rw [heq]
  exact (h.told ha hb hsame).1

/-- What stands before each part does not matter. -/
theorem Tells.after (h : Tells write p) {before : Text} (hbefore : ∀ c ∈ before, Visible c) :
    Tells (fun a => before ++ write a) p where
  visible ha hc := (List.mem_append.mp hc).elim (hbefore _) (h.visible ha)
  told ha hb heq := by
    rw [List.append_assoc, List.append_assoc] at heq
    exact h.told ha hb (List.append_cancel_left heq)

/-- Parts that begin with another code point than what closes them are told one after another. -/
theorem Tells.flatMap (h : Tells write p) {opening closing : CodePoint} (hne : opening ≠ closing)
    (hstarts : ∀ a, ∃ more, write a = opening :: more) {as bs : List α} {rest rest' : Text}
    (has : ∀ a ∈ as, p a) (hbs : ∀ b ∈ bs, p b)
    (heq : as.flatMap write ++ closing :: rest = bs.flatMap write ++ closing :: rest') :
    as = bs ∧ rest = rest' := by
  have hother : ∀ {a : α} {as : List α} {rest rest' : Text},
      (a :: as).flatMap write ++ closing :: rest ≠ closing :: rest' := by
    intro a as rest rest' heq
    obtain ⟨more, hmore⟩ := hstarts a
    rw [List.flatMap_cons, hmore] at heq
    exact hne (List.cons.inj heq).1
  induction as generalizing bs with
  | nil =>
    cases bs with
    | nil => exact ⟨rfl, (List.cons.inj heq).2⟩
    | cons b bs => exact absurd heq.symm hother
  | cons a as ih =>
    cases bs with
    | nil => exact absurd heq hother
    | cons b bs =>
      obtain ⟨ha, hlater⟩ := List.forall_mem_cons.mp has
      obtain ⟨hb, hlater'⟩ := List.forall_mem_cons.mp hbs
      rw [List.flatMap_cons, List.flatMap_cons, List.append_assoc, List.append_assoc] at heq
      obtain ⟨hsame, hrest⟩ := h.told ha hb heq
      obtain ⟨hsames, hrest⟩ := ih hlater hlater' hrest
      exact ⟨hsame ▸ hsames ▸ rfl, hrest⟩

/-- Parts between brackets, with commas between them. -/
def bracketed (write : α → Text) (opening closing : CodePoint) (as : List α) : Text :=
  [opening] ++ Text.join ", " (as.map write) ++ [closing]

theorem bracketed_cons (opening closing : CodePoint) (a : α) (as : List α) (rest : Text) :
    bracketed write opening closing (a :: as) ++ rest = opening ::
      (write a ++ (as.flatMap (fun a => Text.ofString ", " ++ write a) ++ closing :: rest)) := by
  unfold bracketed
  rw [List.map_cons, Text.join_eq_flatMap, List.flatMap_map]
  simp

theorem visible_of_mem_comma : ∀ c ∈ Text.ofString ", ", Visible c := by decide

/-- Parts that are told are told between brackets, if none of them begins with the bracket. -/
theorem Tells.bracketed (h : Tells write p) {first opening closing : CodePoint}
    (hstarts : ∀ a, ∃ more, write a = first :: more) (hopening : Visible opening)
    (hclosing : Visible closing) (hfirst : first ≠ closing) (hcomma : .char ',' ≠ closing) :
    Tells (bracketed write opening closing) (fun as => ∀ a ∈ as, p a) where
  visible := by
    intro as c has hc
    unfold Json.bracketed at hc
    rw [List.mem_append, List.mem_append, List.mem_singleton, List.mem_singleton] at hc
    rcases hc with (rfl | hc) | rfl
    · exact hopening
    · rcases Text.mem_of_mem_join hc with hc | ⟨t, ht, hc⟩
      · exact visible_of_mem_comma c hc
      · obtain ⟨a, ha, rfl⟩ := List.mem_map.mp ht
        exact h.visible (has a ha) hc
    · exact hclosing
  told := by
    intro as bs rest rest' has hbs heq
    -- A list with elements goes on with the first of them, and the empty list is closed at once.
    have hother : ∀ {a : α} {as : List α} {rest rest' : Text},
        Json.bracketed write opening closing (a :: as) ++ rest ≠ opening :: closing :: rest' := by
      intro a as rest rest' heq
      obtain ⟨more, hmore⟩ := hstarts a
      rw [bracketed_cons, hmore] at heq
      exact hfirst (List.cons.inj (List.cons.inj heq).2).1
    cases as with
    | nil =>
      cases bs with
      | nil => exact ⟨rfl, List.append_cancel_left heq⟩
      | cons b bs => exact absurd heq.symm hother
    | cons a as =>
      cases bs with
      | nil => exact absurd heq hother
      | cons b bs =>
        obtain ⟨ha, hlater⟩ := List.forall_mem_cons.mp has
        obtain ⟨hb, hlater'⟩ := List.forall_mem_cons.mp hbs
        rw [bracketed_cons, bracketed_cons] at heq
        obtain ⟨hsame, hrest⟩ := h.told ha hb (List.cons.inj heq).2
        obtain ⟨hsames, hrest⟩ := (h.after visible_of_mem_comma).flatMap hcomma
          (fun a => ⟨_, rfl⟩) hlater hlater' hrest
        exact ⟨hsame ▸ hsames ▸ rfl, hrest⟩

end

/-! ## Lists and maps of texts -/

/-- A text and the text that belongs to it. -/
def field (f : Text × Text) : Text := asciiQuoted f.1 ++ ": " ++ asciiQuoted f.2

/-- A field tells its key and its value. -/
theorem tells_field : Tells field (fun f => Whole f.1 ∧ Whole f.2) where
  visible := by
    intro f c h hc
    unfold field at hc
    rw [List.mem_append, List.mem_append] at hc
    rcases hc with (hc | hc) | hc
    · exact tells_asciiQuoted.visible h.1 hc
    · have hcolon : ∀ c ∈ Text.ofString ": ", Visible c := by decide
      exact hcolon c hc
    · exact tells_asciiQuoted.visible h.2 hc
  told := by
    intro f f' rest rest' h h' heq
    unfold field at heq
    simp only [List.append_assoc] at heq
    obtain ⟨hkey, heq⟩ := tells_asciiQuoted.told h.1 h'.1 heq
    obtain ⟨hvalue, hrest⟩ := tells_asciiQuoted.told h.2 h'.2 (List.append_cancel_left heq)
    exact ⟨Prod.ext hkey hvalue, hrest⟩

/-- A list of texts is written between brackets. -/
theorem line_ofTexts : (fun ts => (ofTexts ts).line) = bracketed asciiQuoted '[' ']' := by
  have hitems : ∀ ts : List Text, lineItems (ts.map .text) = ts.map asciiQuoted := by
    intro ts
    induction ts with
    | nil => rfl
    | cons t ts ih => rw [List.map_cons, lineItems, ih]; rfl
  funext ts
  rw [ofTexts, line, hitems]
  rfl

/-- A map of texts is written between braces. -/
theorem line_object_texts :
    (fun pairs : Ordered Text => (object (pairs.map fun (k, v) => (k, .text v))).line) =
      bracketed field '\x7b' '\x7d' := by
  have hfields : ∀ pairs : Ordered Text,
      lineFields (pairs.map fun (k, v) => (k, .text v)) = pairs.map field := by
    intro pairs
    induction pairs with
    | nil => rfl
    | cons f pairs ih => rw [List.map_cons, lineFields, ih]; rfl
  funext pairs
  rw [line, hfields]
  rfl

/-- A list of texts is told from the line that is written for it. -/
theorem tells_texts : Tells (fun ts => (ofTexts ts).line) (fun ts => ∀ t ∈ ts, Whole t) := by
  rw [line_ofTexts]
  exact tells_asciiQuoted.bracketed (fun t => ⟨_, asciiQuoted_eq t⟩) (by decide) (by decide)
    (by decide) (by decide)

/-- A map of texts is told from the line that is written for it, with the order of its keys. -/
theorem tells_map :
    Tells (fun pairs : Ordered Text => (object (pairs.map fun (k, v) => (k, .text v))).line)
      (fun pairs => ∀ f ∈ pairs, Whole f.1 ∧ Whole f.2) := by
  have hstarts : ∀ f, ∃ more, field f = .char '"' :: more :=
    fun f => ⟨_, by rw [field, List.append_assoc, asciiQuoted_append]⟩
  rw [line_object_texts]
  exact tells_field.bracketed hstarts (by decide) (by decide) (by decide) (by decide)

end Scaffold.Json
