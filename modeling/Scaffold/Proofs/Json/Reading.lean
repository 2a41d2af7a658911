import Scaffold.Json.File
import Scaffold.Proofs.Program

/-!
# What JSON texts begin and end with

A value ends in a quote, a bracket, a brace, a letter or a digit (`Consumes`), and nothing but
blanks may follow it. So a text that ends in a semicolon and a line feed is no JSON, and neither is
one that begins with the opening tag of a source file.

Values, items and fields are read by three readers that call one another on the fuel that is left.
What is known of all that they read is shown once for all (`Compositional.holding`): a property of
each of the three that holds of what is not read by another of them, and that passes from parts to
wholes, holds of everything that is read. Here it is used for how values end
(`compositional_consumes`), and in `Proofs.Json.Given` for what they hold.
-/

namespace Scaffold.Json

open Program (except_bind_ok_iff)

/-- Whether a value may end in a code point. -/
def endsValue (c : CodePoint) : Bool := c = '"' || c = ']' || c = '\x7d' || c.isAlphanumeric

/-- What was read of a text before the rest of it ends as values do. -/
def Consumes (t rest : Text) : Prop := ∃ init c, t = init ++ c :: rest ∧ endsValue c = true

/-- What was passed over before does not matter. -/
theorem Consumes.append {t rest : Text} (h : Consumes t rest) (before : Text) :
    Consumes (before ++ t) rest := by
  obtain ⟨init, c, rfl, hc⟩ := h
  exact ⟨before ++ init, c, (List.append_assoc ..).symm, hc⟩

theorem Consumes.cons {t rest : Text} (h : Consumes t rest) (c : CodePoint) :
    Consumes (c :: t) rest := h.append [c]

/-- What one reader leaves, another may go on with. -/
theorem Consumes.trans {t rest more : Text} (h : Consumes t rest) (h' : Consumes rest more) :
    Consumes t more := by
  obtain ⟨init, c, rfl, _⟩ := h
  exact (h'.cons c).append init

/-- Blanks in front do not matter. -/
theorem Consumes.of_skipSpace {t rest : Text} (h : Consumes (skipSpace t) rest) :
    Consumes t rest := by
  have hsplit : t.takeWhile isSpace ++ skipSpace t = t := List.takeWhile_append_dropWhile
  rw [← hsplit]
  exact h.append _

/-- A closing code point that is found after blanks is the end of what was read. -/
theorem consumes_of_skipSpace_eq {t rest : Text} {c : CodePoint} (h : skipSpace t = c :: rest)
    (hc : endsValue c = true) : Consumes t rest :=
  Consumes.of_skipSpace ⟨[], c, h, hc⟩

/-- More may be read after a code point that is found after blanks. -/
theorem Consumes.after_skipSpace {t more rest : Text} {c : CodePoint}
    (h : skipSpace t = c :: more) (hmore : Consumes more rest) : Consumes t rest := by
  apply Consumes.of_skipSpace
  rw [h]
  exact hmore.cons c

/-! ## Texts, numbers, words -/

/-- No escape by number is the end of a text. -/
theorem hexEscape_ne_close (g : Grammar) (t : Text) : hexEscape g t ≠ .close := by
  -- A surrogate without a second one is a point or an error, by the grammar.
  have halone : ∀ n, (if (!g.allowsLoneSurrogates && (isHigh n || isLow n)) = true then
      Piece.broken .loneSurrogate 1 else .point (.ofCode n) 5) ≠ .close := by
    intro n
    split <;> exact nofun
  unfold hexEscape
  split
  next => exact nofun
  next =>
    split
    next => exact nofun
    next n _ =>
      dsimp only
      split
      next =>
        split
        next => exact nofun
        next =>
          split
          next => exact nofun
          next => exact halone n
      next => exact halone n

/-- Only a quote is the end of a text. -/
theorem piece_close {g : Grammar} {c : CodePoint} {rest : Text} (h : piece g c rest = .close) :
    c = .char '"' := by
  unfold piece at h
  split at h
  next hc => exact hc
  next =>
    split at h
    next =>
      split at h
      next => cases h
      next digits => exact absurd h (hexEscape_ne_close g digits)
      next => split at h <;> cases h
    next => split at h <;> cases h

/-- A quoted text ends in its quote. -/
theorem readInside_consumes {g : Grammar} {start : Nat} {t : Text} :
    ∀ {skip : Nat} {inside rest : Text}, readInside g start skip t = .ok (inside, rest) →
      Consumes t rest := by
  induction t with
  | nil =>
    intro skip inside rest h
    cases skip <;> cases h
  | cons c t ih =>
    intro skip inside rest h
    cases skip with
    | succ skip =>
      unfold readInside at h
      exact (ih h).cons c
    | zero =>
      unfold readInside at h
      cases hpiece : piece g c t with
      | close =>
        rw [hpiece] at h
        cases h
        -- The closing quote is what was read last, and values may end with it.
        refine ⟨[], c, rfl, ?_⟩
        rw [piece_close hpiece]
        decide
      | point d further =>
        rw [hpiece] at h
        obtain ⟨⟨inside', rest'⟩, hrest, h⟩ := except_bind_ok_iff.mp h
        cases h
        exact (ih hrest).cons c
      | broken fault after =>
        rw [hpiece] at h
        cases fault <;> cases h

/-- Digits, if there are any, end in one. -/
theorem consumes_spanDigits {t digits rest : Text} (h : spanDigits t = (digits, rest))
    (hne : ¬ digits.isEmpty = true) : Consumes t rest := by
  unfold spanDigits at h
  obtain ⟨hdigits, hrest⟩ := Prod.mk.inj h
  have hsplit : digits ++ rest = t := by
    rw [← hdigits, ← hrest]
    exact List.takeWhile_append_dropWhile
  have hne' : digits ≠ [] := by
    intro heq
    subst heq
    exact hne rfl
  refine ⟨List.dropLast digits, digits.getLast hne', ?_, ?_⟩
  · rw [List.append_cons, List.dropLast_concat_getLast, hsplit]
  · have hall : ∀ c ∈ digits, c.isDigit = true := by
      rw [← hdigits]
      exact List.all_eq_true.mp List.all_takeWhile
    unfold endsValue CodePoint.isAlphanumeric
    rw [hall _ (List.getLast_mem hne')]
    simp

/-- A fraction ends in a digit. -/
theorem readFraction_consumes {t digits rest : Text} (h : readFraction t = some (digits, rest)) :
    Consumes t rest := by
  unfold readFraction at h
  split at h
  next inner =>
    cases hspan : spanDigits inner with
    | mk ds r =>
      rw [hspan] at h
      dsimp only at h
      split at h
      next => cases h
      next hne =>
        cases h
        exact (consumes_spanDigits hspan hne).cons _
  next => cases h

/-- An exponent ends in a digit. -/
theorem readExponent_consumes {t rest : Text} {power : Int}
    (h : readExponent t = some (power, rest)) : Consumes t rest := by
  unfold readExponent at h
  split at h
  next => cases h
  next c inner =>
    split at h
    next =>
      split at h
      next negative unsigned hsign =>
        split at h
        next digits after hdigits =>
          split at h
          next => cases h
          next hne =>
            cases h
            -- The sign, if there is one, stands between the letter and the digits.
            have hunsigned := consumes_spanDigits hdigits hne
            split at hsign <;> cases hsign
            · exact (hunsigned.cons _).cons c
            · exact (hunsigned.cons _).cons c
            · exact hunsigned.cons c
    next => cases h

/-- What may be left out is either not there, or ends as values do. -/
theorem optional_consumes {α : Type} {part : Text → Option (α × Text)}
    (hpart : ∀ {t x rest}, part t = some (x, rest) → Consumes t rest) {t rest : Text}
    (h : Consumes t rest) : Consumes t (((part rest).map (·.2)).getD rest) := by
  cases hfound : part rest with
  | none => exact h
  | some found =>
    obtain ⟨x, after⟩ := found
    exact h.trans (hpart hfound)

/-- A number ends in a digit, with or without fraction and exponent. -/
theorem readNumber_consumes {t rest : Text} {v : Json} (h : readNumber t = .ok (v, rest)) :
    Consumes t rest := by
  unfold readNumber at h
  split at h
  next negative unsigned hsign =>
    split at h
    next digits whole hwhole =>
      split at h
      next => cases h
      next hne =>
        -- The whole part is a zero or some digits, ...
        have hunsigned : Consumes unsigned whole := by
          split at hwhole
          next =>
            cases hwhole
            exact ⟨[], _, rfl, by decide⟩
          next => exact consumes_spanDigits hwhole hne
        have ht : Consumes t whole := by
          split at hsign <;> cases hsign
          · exact hunsigned.cons _
          · exact hunsigned
        -- ... and a fraction and an exponent may follow.
        dsimp only at h
        split at h
        next =>
          split at h
          next => cases h
          next =>
            cases h
            exact ht
        next =>
          cases h
          exact optional_consumes readExponent_consumes (optional_consumes readFraction_consumes ht)

/-- A word ends in a letter. -/
theorem readWord?_consumes {t rest : Text} {v : Json} (h : readWord? t = some (v, rest)) :
    Consumes t rest := by
  have hends : ∀ word ∈ words.map (·.1), ∃ init c, word = init ++ [c] ∧ endsValue c = true := by
    intro word hword
    simp only [words, List.map_cons, List.map_nil, List.mem_cons, List.not_mem_nil,
      or_false] at hword
    rcases hword with rfl | rfl | rfl | rfl | rfl | rfl
    all_goals exact ⟨_, _, (List.dropLast_concat_getLast (by decide)).symm, by decide⟩
  unfold readWord? at h
  obtain ⟨⟨word, value⟩, hmem, hfound⟩ := List.exists_of_findSome?_eq_some h
  obtain ⟨rest', hrest, heq⟩ := Option.map_eq_some_iff.mp hfound
  cases heq
  obtain ⟨init, c, rfl, hc⟩ := hends word (List.mem_map.mpr ⟨_, hmem, rfl⟩)
  refine ⟨init, c, ?_, hc⟩
  rw [Text.eq_append_of_dropStart? hrest, List.append_assoc]
  rfl

/-! ## Values -/

/-- Properties of readings that hold of a whole if they hold of its parts. A reading is of a value,
of the items of a list after its bracket, or of the fields of an object after its brace; a property
of it may depend on the text, on what was read at its start, and on what follows that. There is one
condition for each way in which a reader succeeds. -/
structure Compositional (g : Grammar) (value : Text → Json → Text → Prop)
    (items : Text → List Json → Text → Prop) (fields : Text → List (Text × Json) → Text → Prop) :
    Prop where
  text : ∀ {start t inside rest}, readInside g start 0 t = .ok (inside, rest) →
    value (.char '"' :: t) (.text inside) rest
  word : ∀ {t v rest}, readWord? t = some (v, rest) → value t v rest
  number : ∀ {t v rest}, readNumber t = .ok (v, rest) → value t v rest
  emptyList : ∀ {t rest}, skipSpace t = .char ']' :: rest → value (.char '[' :: t) (.list []) rest
  list : ∀ {t vs rest}, items (skipSpace t) vs rest → value (.char '[' :: t) (.list vs) rest
  emptyObject : ∀ {t rest}, skipSpace t = .char '\x7d' :: rest →
    value (.char '\x7b' :: t) (.object []) rest
  object : ∀ {t fs rest}, fields (skipSpace t) fs rest →
    value (.char '\x7b' :: t) (.object (Ordered.ofEntries fs)) rest
  lastItem : ∀ {t v after rest}, value t v after → skipSpace after = .char ']' :: rest →
    items t [v] rest
  item : ∀ {t v after more vs rest}, value t v after → skipSpace after = .char ',' :: more →
    items (skipSpace more) vs rest → items t (v :: vs) rest
  lastField : ∀ {start t key named more v after rest}, readInside g start 0 t = .ok (key, named) →
    skipSpace named = .char ':' :: more → value (skipSpace more) v after →
    skipSpace after = .char '\x7d' :: rest → fields (.char '"' :: t) [(key, v)] rest
  field : ∀ {start t key named more v after others fs rest},
    readInside g start 0 t = .ok (key, named) → skipSpace named = .char ':' :: more →
    value (skipSpace more) v after → skipSpace after = .char ',' :: others →
    fields (skipSpace others) fs rest → fields (.char '"' :: t) ((key, v) :: fs) rest

section

variable {g : Grammar} {value : Text → Json → Text → Prop}
  {items : Text → List Json → Text → Prop} {fields : Text → List (Text × Json) → Text → Prop}
  {fuel depth : Nat} {t rest : Text}

/-- The properties hold of what the readers read with some amount of fuel. -/
structure Holding (g : Grammar) (value : Text → Json → Text → Prop)
    (items : Text → List Json → Text → Prop) (fields : Text → List (Text × Json) → Text → Prop)
    (fuel : Nat) : Prop where
  value : ∀ {depth t v rest}, readValue g depth fuel t = .ok (v, rest) → value t v rest
  items : ∀ {depth t vs rest}, readItems g depth fuel t = .ok (vs, rest) → items t vs rest
  fields : ∀ {depth t fs rest}, readFields g depth fuel t = .ok (fs, rest) → fields t fs rest

namespace Compositional

/-- One more unit of fuel for values: each kind of value by its own rule. -/
theorem readValue (h : Compositional g value items fields) (ih : Holding g value items fields fuel)
    {v : Json} (hread : Json.readValue g depth (fuel + 1) t = .ok (v, rest)) :
    value t v rest := by
  unfold Json.readValue at hread
  split at hread
  next inner =>
    obtain ⟨⟨inside, rest'⟩, hinside, hread⟩ := except_bind_ok_iff.mp hread
    cases hread
    exact h.text hinside
  next inner =>
    split at hread
    next => cases hread
    next =>
      split at hread
      next hclose =>
        cases hread
        exact h.emptyList hclose
      next =>
        obtain ⟨⟨vs, rest'⟩, hitems, hread⟩ := except_bind_ok_iff.mp hread
        cases hread
        exact h.list (ih.items hitems)
  next inner =>
    split at hread
    next => cases hread
    next =>
      split at hread
      next hclose =>
        cases hread
        exact h.emptyObject hclose
      next =>
        obtain ⟨⟨fs, rest'⟩, hfields, hread⟩ := except_bind_ok_iff.mp hread
        cases hread
        exact h.object (ih.fields hfields)
  next =>
    split at hread
    next hword =>
      cases hread
      exact h.word hword
    next => exact h.number hread

/-- One more unit of fuel for items. -/
theorem readItems (h : Compositional g value items fields) (ih : Holding g value items fields fuel)
    {vs : List Json} (hread : Json.readItems g depth (fuel + 1) t = .ok (vs, rest)) :
    items t vs rest := by
  unfold Json.readItems at hread
  obtain ⟨⟨v, after⟩, hv, hread⟩ := except_bind_ok_iff.mp hread
  dsimp only at hread
  split at hread
  next hclose =>
    cases hread
    exact h.lastItem (ih.value hv) hclose
  next hcomma =>
    obtain ⟨⟨vs', rest'⟩, hitems, hread⟩ := except_bind_ok_iff.mp hread
    cases hread
    exact h.item (ih.value hv) hcomma (ih.items hitems)
  next => cases hread

/-- One more unit of fuel for fields. -/
theorem readFields (h : Compositional g value items fields) (ih : Holding g value items fields fuel)
    {fs : List (Text × Json)}
    (hread : Json.readFields g depth (fuel + 1) t = .ok (fs, rest)) : fields t fs rest := by
  unfold Json.readFields at hread
  split at hread
  next inner =>
    obtain ⟨⟨key, named⟩, hkey, hread⟩ := except_bind_ok_iff.mp hread
    dsimp only at hread
    split at hread
    next hcolon =>
      obtain ⟨⟨v, after⟩, hv, hread⟩ := except_bind_ok_iff.mp hread
      dsimp only at hread
      split at hread
      next hclose =>
        cases hread
        exact h.lastField hkey hcolon (ih.value hv) hclose
      next hcomma =>
        obtain ⟨⟨fs', rest'⟩, hfields, hread⟩ := except_bind_ok_iff.mp hread
        cases hread
        exact h.field hkey hcolon (ih.value hv) hcomma (ih.fields hfields)
      next => cases hread
    next => cases hread
  next => cases hread

/-- Induction over readings: what holds of a whole if it holds of its parts holds of everything that
is read, with any amount of fuel. -/
theorem holding (h : Compositional g value items fields) (fuel : Nat) :
    Holding g value items fields fuel := by
  induction fuel with
  | zero =>
    -- Without fuel nothing is read.
    refine ⟨?_, ?_, ?_⟩ <;> intro depth t v rest hread
    · unfold Json.readValue at hread
      cases hread
    · unfold Json.readItems at hread
      cases hread
    · unfold Json.readFields at hread
      cases hread
  | succ fuel ih => exact ⟨h.readValue ih, h.readItems ih, h.readFields ih⟩

end Compositional

end

/-- Every reader that succeeds has consumed something that ends as values do: the last of its parts
does, or the bracket or brace that closes it. -/
theorem compositional_consumes (g : Grammar) :
    Compositional g (fun t _ rest => Consumes t rest) (fun t _ rest => Consumes t rest)
      fun t _ rest => Consumes t rest where
  text hinside := (readInside_consumes hinside).cons _
  word := readWord?_consumes
  number := readNumber_consumes
  emptyList hclose := (consumes_of_skipSpace_eq hclose (by decide)).cons _
  list hitems := hitems.of_skipSpace.cons _
  emptyObject hclose := (consumes_of_skipSpace_eq hclose (by decide)).cons _
  object hfields := hfields.of_skipSpace.cons _
  lastItem hv hclose := hv.trans (consumes_of_skipSpace_eq hclose (by decide))
  item hv hcomma hitems := hv.trans (Consumes.after_skipSpace hcomma hitems.of_skipSpace)
  lastField hkey hcolon hv hclose :=
    ((readInside_consumes hkey).cons _).trans <| Consumes.after_skipSpace hcolon <|
      hv.of_skipSpace.trans (consumes_of_skipSpace_eq hclose (by decide))
  field hkey hcolon hv hcomma hfields :=
    ((readInside_consumes hkey).cons _).trans <| Consumes.after_skipSpace hcolon <|
      hv.of_skipSpace.trans (Consumes.after_skipSpace hcomma hfields.of_skipSpace)

/-! ## Whole texts -/

/-- JSON is a value with nothing but blanks after it. -/
theorem read_ok {g : Grammar} {t : Text} {v : Json} (h : read g t = .ok v) :
    ∃ rest, readValue g g.maxDepth (2 * t.length + 2) (skipSpace t) = .ok (v, rest) ∧
      ∀ c ∈ rest, isSpace c = true := by
  unfold read at h
  split at h
  next => cases h
  next =>
    split at h
    next => cases h
    next v' rest hrest =>
      split at h
      next hnil =>
        cases h
        refine ⟨rest, hrest, ?_⟩
        have hsplit : rest.takeWhile isSpace ++ skipSpace rest = rest :=
          List.takeWhile_append_dropWhile
        rw [hnil, List.append_nil] at hsplit
        rw [← hsplit]
        exact List.all_eq_true.mp List.all_takeWhile
      next => cases h

/-- A text that ends in a semicolon and a line feed is no JSON: the semicolon is no blank, and no
value ends in it. -/
theorem read_semicolon (g : Grammar) (t : Text) (v : Json) :
    read g (t ++ [.char ';', .char '\n']) ≠ .ok v := by
  intro hread
  obtain ⟨rest, hvalue, hspace⟩ := read_ok hread
  obtain ⟨init, c, hsplit, hc⟩ := (((compositional_consumes g).holding _).value hvalue).of_skipSpace
  -- Seen from its end, the text is the blanks that follow the value, and then the value's end.
  have hreverse := congrArg List.reverse hsplit
  simp only [List.reverse_append, List.reverse_cons, List.reverse_nil, List.nil_append,
    List.cons_append, List.append_assoc] at hreverse
  have hspace' : ∀ d ∈ rest.reverse, isSpace d = true := by
    intro d hd
    exact hspace d (List.mem_reverse.mp hd)
  cases hrest : rest.reverse with
  | nil =>
    rw [hrest] at hreverse
    obtain ⟨rfl, _⟩ := List.cons.inj hreverse
    exact absurd hc (by decide)
  | cons d more =>
    rw [hrest] at hreverse hspace'
    obtain ⟨_, hreverse⟩ := List.cons.inj hreverse
    cases more with
    | nil =>
      obtain ⟨rfl, _⟩ := List.cons.inj hreverse
      exact absurd hc (by decide)
    | cons e more =>
      obtain ⟨rfl, _⟩ := List.cons.inj hreverse
      exact absurd (hspace' (.char ';') (by simp)) (by decide)

/-- A text that begins as source files do is no JSON. -/
theorem read_tag (g : Grammar) (t : Text) (v : Json) :
    read g (.char '<' :: t) ≠ .ok v := by
  intro hread
  obtain ⟨rest, hvalue, _⟩ := read_ok hread
  have hskip : skipSpace (.char '<' :: t) = .char '<' :: t := rfl
  -- No word and no number begins with it.
  rw [hskip] at hvalue
  unfold readValue at hvalue
  cases hvalue

end Scaffold.Json
