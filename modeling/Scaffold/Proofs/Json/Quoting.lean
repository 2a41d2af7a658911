import Scaffold.Json.Reader
import Scaffold.Json.Writer
import Scaffold.Proofs.Text.Digits
import Scaffold.Proofs.Text.Encoding

/-!
# Quoted texts and their escapes

Each code point is written as one piece (`isPiece_plainPoint`), in ASCII each that is no surrogate
(`isPiece_asciiPoint`), and a reader of any grammar takes back what is written piece by piece: it
passes over exactly the code points of a piece (`readInside_pieces`). No control character stands in
what is written (`visible_of_mem_plainQuoted`, `visible_of_mem_asciiQuoted`), so it stays on its
line, and can go through a file, whatever is done to the ends of lines there.

A piece is one of three: a backslash and a letter, an escape by number, or the code point itself; in
ASCII a fourth, the escapes of two surrogates. `IsPiece` says of each what the reader does with it,
so that the induction over a text needs no cases.

Surrogates are the exception in ASCII because an escape that names one may be read together with the
next.
-/

namespace Scaffold.Json

/-- The code points that belong to an escape already read are passed over. -/
theorem readInside_skip (g : Grammar) (start : Nat) (passed rest : Text) :
    readInside g start passed.length (passed ++ rest) = readInside g start 0 rest := by
  induction passed with
  | nil => rfl
  | cons c passed ih =>
    rw [List.length_cons, List.cons_append, readInside]
    exact ih

/-- What is written for a code point is read as one piece, whatever follows. Something does, since a
quoted text ends in its quote. -/
def IsPiece (g : Grammar) (written : Text) (c : CodePoint) : Prop :=
  ∃ d passed, written = d :: passed ∧
    ∀ next more, piece g d (passed ++ next :: more) = .point c passed.length

/-! ## Pieces -/

section

variable (g : Grammar)

/-- An escape by a letter is the backslash and that letter. -/
theorem isPiece_short {c : CodePoint} {e : Text} (h : shortEscape? c = some e) : IsPiece g e c := by
  unfold shortEscape? at h
  split at h <;> cases h
  all_goals exact ⟨_, _, rfl, fun _ _ => rfl⟩

/-- What stands for itself is neither of the two code points that have a meaning inside quotes. -/
theorem isPiece_self {c : CodePoint} (hshort : shortEscape? c = none) (h : 0x20 ≤ c.code) :
    IsPiece g [c] c := by
  have hquote : c ≠ .char '"' := by
    rintro rfl
    cases hshort
  have hbackslash : c ≠ .char '\\' := by
    rintro rfl
    cases hshort
  refine ⟨c, [], rfl, fun next more => ?_⟩
  unfold piece
  rw [if_neg hquote, if_neg hbackslash, if_neg (by omega)]
  rfl

/-- The digits of an escape by number. -/
theorem hexQuad?_hex {n : Nat} (h : n < 0x10000) :
    ∃ a b c d, Text.hex 4 n = [a, b, c, d] ∧
      ∀ rest, hexQuad? (a :: b :: c :: d :: rest) = some n := by
  have hdigit : ∀ n < 16, hexValue? (Text.hexDigit n) = some n := by decide
  refine ⟨_, _, _, _, Text.hex_four h, fun rest => ?_⟩
  simp only [hexQuad?]
  rw [hdigit (n / 0x1000) (by omega), hdigit (n / 0x100 % 16) (by omega),
    hdigit (n / 0x10 % 16) (by omega), hdigit (n % 16) (by omega)]
  show some (0x1000 * (n / 0x1000) + 0x100 * (n / 0x100 % 16) + 0x10 * (n / 0x10 % 16) + n % 16) = _
  congr 1
  omega

theorem hexEscapeOf_eq (n : Nat) :
    hexEscapeOf n = .char '\\' :: .char 'u' :: Text.hex 4 n := rfl

/-- The number of a code point that is no surrogate is escaped alone. -/
theorem isPiece_hexEscapeOf {n : Nat} (h : n < 0x10000) (hhigh : isHigh n = false)
    (hlow : isLow n = false) : IsPiece g (hexEscapeOf n) (.ofCode n) := by
  obtain ⟨a, b, c, d, hhex, hquad⟩ := hexQuad?_hex h
  refine ⟨_, _, hexEscapeOf_eq n, fun next more => ?_⟩
  rw [hhex]
  show hexEscape g (a :: b :: c :: d :: next :: more) = .point (.ofCode n) 5
  unfold hexEscape
  rw [hquad]
  simp [hhigh, hlow]

/-- The escapes of two surrogates that belong together stand for one code point. -/
theorem isPiece_pair {high low : Nat} (hhigh : isHigh high = true) (hlow : isLow low = true) :
    IsPiece g (hexEscapeOf high ++ hexEscapeOf low) (joinSurrogates high low) := by
  have hroom : high < 0x10000 ∧ low < 0x10000 := by
    simp only [isHigh, isLow, Bool.and_eq_true, decide_eq_true_eq] at hhigh hlow
    omega
  obtain ⟨a, b, c, d, hhex, hquad⟩ := hexQuad?_hex hroom.1
  obtain ⟨a', b', c', d', hhex', hquad'⟩ := hexQuad?_hex hroom.2
  refine ⟨_, _, by rw [hexEscapeOf_eq, List.cons_append], fun next more => ?_⟩
  rw [hexEscapeOf_eq, hhex, hhex']
  show hexEscape g (a :: b :: c :: d :: .char '\\' :: .char 'u' ::
    a' :: b' :: c' :: d' :: next :: more) = .point (joinSurrogates high low) 11
  unfold hexEscape
  rw [hquad]
  simp [hhigh, hlow, hquad']

/-- On a page every code point is written as a piece, surrogates included. -/
theorem isPiece_plainPoint (c : CodePoint) : IsPiece g (plainPoint c) c := by
  unfold plainPoint
  split
  next e hshort => exact isPiece_short g hshort
  next hshort =>
    split
    next hcontrol =>
      have hhigh : isHigh c.code = false := by simp [isHigh]; omega
      have hlow : isLow c.code = false := by simp [isLow]; omega
      have hpiece := isPiece_hexEscapeOf g (by omega) hhigh hlow
      rwa [CodePoint.ofCode_code] at hpiece
    next hvisible => exact isPiece_self g hshort (by omega)

/-- The number of a character, and that of none of the surrogates. -/
theorem code_of_character {c : CodePoint} (hc : Utf8.isSurrogate c = false) :
    c.code < 0x110000 ∧ isHigh c.code = false ∧ isLow c.code = false := by
  have hvalid : c.code < 0xD800 ∨ 0xDFFF < c.code ∧ c.code < 0x110000 := by
    cases c with
    | surrogate => cases hc
    | char c => exact c.valid
  simp only [isHigh, isLow, Bool.and_eq_false_iff, decide_eq_false_iff_not]
  refine ⟨?_, ?_, ?_⟩ <;> omega

/-- On a line in ASCII, every one but the surrogates. -/
theorem isPiece_asciiPoint {c : CodePoint} (hc : Utf8.isSurrogate c = false) :
    IsPiece g (asciiPoint c) c := by
  obtain ⟨hlt, hhigh, hlow⟩ := code_of_character hc
  unfold asciiPoint
  split
  next e hshort => exact isPiece_short g hshort
  next hshort =>
    split
    next hprintable =>
      rw [Bool.and_eq_true, decide_eq_true_eq] at hprintable
      exact isPiece_self g hshort hprintable.1
    next =>
      split
      next hroom =>
        have hpiece := isPiece_hexEscapeOf g hroom hhigh hlow
        rwa [CodePoint.ofCode_code] at hpiece
      next hroom =>
        -- The two surrogates count the code points past U+FFFF.
        have hfirst : isHigh (0xD800 + (c.code - 0x10000) / 0x400) = true := by
          simp only [isHigh, Bool.and_eq_true, decide_eq_true_eq]
          omega
        have hsecond : isLow (0xDC00 + (c.code - 0x10000) % 0x400) = true := by
          simp only [isLow, Bool.and_eq_true, decide_eq_true_eq]
          omega
        have hcode : 0x10000 + 0x400 * (0xD800 + (c.code - 0x10000) / 0x400 - 0xD800) +
            (0xDC00 + (c.code - 0x10000) % 0x400 - 0xDC00) = c.code := by
          omega
        have hpair := isPiece_pair g hfirst hsecond
        rwa [joinSurrogates, hcode, CodePoint.ofCode_code] at hpair

end

/-- A quoted text is its pieces between two quotes. -/
theorem plainQuoted_eq (t : Text) :
    plainQuoted t = .char '"' :: (t.flatMap plainPoint ++ [.char '"']) := by
  unfold plainQuoted Text.concat
  simp [Text.ofString]

/-- A reader takes a text back from inside its quotes if each code point is one piece. -/
theorem readInside_pieces {g : Grammar} (start : Nat) {write : CodePoint → Text} {t : Text}
    (h : ∀ c ∈ t, IsPiece g (write c) c) (rest : Text) :
    readInside g start 0 (t.flatMap write ++ .char '"' :: rest) = .ok (t, rest) := by
  induction t with
  | nil => rfl
  | cons c t ih =>
    obtain ⟨hc, ht⟩ := List.forall_mem_cons.mp h
    obtain ⟨d, passed, hwritten, hpiece⟩ := hc
    obtain ⟨next, more, hmore⟩ :
        ∃ next more, t.flatMap write ++ .char '"' :: rest = next :: more := by
      cases t.flatMap write with
      | nil => exact ⟨_, _, rfl⟩
      | cons d written => exact ⟨_, _, rfl⟩
    rw [List.flatMap_cons, List.append_assoc, hwritten, List.cons_append, readInside, hmore,
      hpiece, ← hmore]
    show (readInside g start passed.length _ >>= _) = _
    rw [readInside_skip, ih ht]
    rfl

/-- The inside of a quoted text is read back, up to its closing quote. -/
theorem readInside_plain (g : Grammar) (start : Nat) (t rest : Text) :
    readInside g start 0 (t.flatMap plainPoint ++ .char '"' :: rest) = .ok (t, rest) :=
  readInside_pieces start (fun c _ => isPiece_plainPoint g c) rest

/-! ## What is written -/

/-- The code point is neither a surrogate nor a control character. -/
def Visible (c : CodePoint) : Prop := Utf8.isSurrogate c = false ∧ 0x20 ≤ c.code

instance : DecidablePred Visible := fun _ => inferInstanceAs (Decidable (_ ∧ _))

/-- What is past the control characters and before the surrogates is visible. -/
theorem visible_of_code {c : CodePoint} (h : 0x20 ≤ c.code) (h' : c.code < 0xD800) :
    Visible c := by
  refine ⟨?_, h⟩
  cases c with
  | char c => rfl
  | surrogate index => exact absurd h' (Nat.not_lt.mpr (Nat.le_add_right ..))

theorem visible_of_mem_short {c d : CodePoint} {e : Text} (h : shortEscape? c = some e)
    (hd : d ∈ e) : Visible d := by
  unfold shortEscape? at h
  split at h <;> cases h
  all_goals revert d; decide

theorem visible_of_mem_hexEscapeOf {n : Nat} (h : n < 0x10000) {d : CodePoint}
    (hd : d ∈ hexEscapeOf n) : Visible d := by
  have hdigit : ∀ n < 16, Visible (Text.hexDigit n) := by decide
  rw [hexEscapeOf_eq, Text.hex_four h] at hd
  simp only [List.mem_cons, List.not_mem_nil, or_false] at hd
  rcases hd with rfl | rfl | rfl | rfl | rfl | rfl
  · decide
  · decide
  all_goals exact hdigit _ (by omega)

/-- A piece holds nothing but visible code points. -/
theorem visible_of_mem_plainPoint {c d : CodePoint} (hc : Utf8.isSurrogate c = false)
    (hd : d ∈ plainPoint c) : Visible d := by
  unfold plainPoint at hd
  split at hd
  next e hshort => exact visible_of_mem_short hshort hd
  next =>
    split at hd
    next hcontrol => exact visible_of_mem_hexEscapeOf (by omega) hd
    next hvisible =>
      obtain rfl := List.mem_singleton.mp hd
      exact ⟨hc, by omega⟩

/-- The quotes add nothing else. -/
theorem visible_of_mem_quotes {write : CodePoint → Text} {t : Text}
    (h : ∀ c ∈ t, ∀ d ∈ write c, Visible d) {d : CodePoint}
    (hd : d ∈ .char '"' :: (t.flatMap write ++ [.char '"'])) : Visible d := by
  have hquote : Visible (.char '"') := by decide
  rw [List.mem_cons, List.mem_append, List.mem_flatMap, List.mem_singleton] at hd
  rcases hd with rfl | ⟨c, hc, hd⟩ | rfl
  · exact hquote
  · exact h c hc d hd
  · exact hquote

/-- A quoted text holds visible code points only. -/
theorem visible_of_mem_plainQuoted {t : Text} (h : ∀ c ∈ t, Utf8.isSurrogate c = false)
    {d : CodePoint} (hd : d ∈ plainQuoted t) : Visible d := by
  rw [plainQuoted_eq] at hd
  exact visible_of_mem_quotes (fun c hc _ => visible_of_mem_plainPoint (h c hc)) hd

/-- The pieces in ASCII do, too. -/
theorem visible_of_mem_asciiPoint {c d : CodePoint} (hc : Utf8.isSurrogate c = false)
    (hd : d ∈ asciiPoint c) : Visible d := by
  obtain ⟨hlt, _⟩ := code_of_character hc
  unfold asciiPoint at hd
  split at hd
  next e hshort => exact visible_of_mem_short hshort hd
  next =>
    split at hd
    next hprintable =>
      rw [Bool.and_eq_true, decide_eq_true_eq] at hprintable
      obtain rfl := List.mem_singleton.mp hd
      exact ⟨hc, hprintable.1⟩
    next =>
      split at hd
      next hroom => exact visible_of_mem_hexEscapeOf hroom hd
      next =>
        rcases List.mem_append.mp hd with hd | hd
        all_goals exact visible_of_mem_hexEscapeOf (by omega) hd

/-- In ASCII, too, a quoted text is its pieces between two quotes. -/
theorem asciiQuoted_eq (t : Text) :
    asciiQuoted t = .char '"' :: (t.flatMap asciiPoint ++ [.char '"']) := by
  unfold asciiQuoted Text.concat
  simp [Text.ofString]

theorem visible_of_mem_asciiQuoted {t : Text} (h : ∀ c ∈ t, Utf8.isSurrogate c = false)
    {d : CodePoint} (hd : d ∈ asciiQuoted t) : Visible d := by
  rw [asciiQuoted_eq] at hd
  exact visible_of_mem_quotes (fun c hc _ => visible_of_mem_asciiPoint (h c hc)) hd

end Scaffold.Json
