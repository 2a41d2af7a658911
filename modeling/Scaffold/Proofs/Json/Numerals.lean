import Scaffold.Json.Reader
import Scaffold.Json.Writer
import Scaffold.Proofs.Text.Digits
import Scaffold.Proofs.Text.Search

/-!
# Whole numbers on a page

A whole number is read back from its digits (`readNumber_ofInt`), as long as nothing follows them
that could belong to a number. On a page only a comma or a line break follows a value (`Apart`), and
a value begins with something that no reader passes over (`startsValue`).

The bound on the size of numbers is that of the reader, which refuses whole numbers of more digits;
what it refuses it has not looked at, so there is nothing to be said about larger ones.

Binary numbers are left out. Settings hold none, and the texts of binary numbers are only shown.
-/

namespace Scaffold.Json

/-! ## Between values -/

/-- What follows a value on a page: nothing, a comma or a line break. -/
def Apart (rest : Text) : Prop := ∀ c ∈ rest.head?, c = .char ',' ∨ c = .char '\n'

theorem apart_newLine (level : Nat) (rest : Text) : Apart (newLine level ++ rest) :=
  fun _ hc => Or.inr (Option.some.inj hc).symm

theorem apart_comma (rest : Text) : Apart (.char ',' :: rest) :=
  fun _ hc => Or.inl (Option.some.inj hc).symm

/-- Whether a value may begin with a code point. -/
def startsValue (c : CodePoint) : Bool :=
  c = '"' || c = '[' || c = '\x7b' || c = '-' || c.isDigit || c.isLower

/-- A digit begins a number. -/
theorem startsValue_of_isDigit {c : CodePoint} (h : c.isDigit = true) : startsValue c = true := by
  unfold startsValue
  rw [h, Bool.or_true, Bool.true_or]

/-- What begins a value is no blank, so no reader passes over it. -/
theorem isSpace_of_startsValue {c : CodePoint} (h : startsValue c = true) : isSpace c = false := by
  rw [← Bool.not_eq_true]
  intro hspace
  unfold isSpace at hspace
  simp only [Bool.or_eq_true, decide_eq_true_eq] at hspace
  rcases hspace with ((rfl | rfl) | rfl) | rfl
  all_goals exact absurd h (by decide)

/-- A reader finds a value right at the start of the text. -/
def Starts (t : Text) : Prop := ∃ c more, t = c :: more ∧ startsValue c = true

/-- What follows does not change how a text begins. -/
theorem Starts.append {t : Text} (h : Starts t) (rest : Text) : Starts (t ++ rest) := by
  obtain ⟨c, more, rfl, hc⟩ := h
  exact ⟨c, more ++ rest, rfl, hc⟩

/-- A text that begins like a value does not begin like anything else. -/
theorem Starts.ne_cons {t : Text} (h : Starts t) {c : CodePoint} (hc : startsValue c = false)
    (rest : Text) : t ≠ c :: rest := by
  obtain ⟨d, more, rfl, hd⟩ := h
  intro heq
  rw [(List.cons.inj heq).1, hc] at hd
  cases hd

/-- There are no blanks in front of a value. -/
theorem Starts.skipSpace {t : Text} (h : Starts t) : skipSpace t = t := by
  obtain ⟨c, more, rfl, hc⟩ := h
  unfold Json.skipSpace
  rw [List.dropWhile_cons_of_neg (by rw [isSpace_of_startsValue hc]; exact Bool.false_ne_true)]

/-- Values with separators between them begin like the first of them. -/
theorem Starts.join {ts : List Text} (hne : ts ≠ []) (h : ∀ t ∈ ts, Starts t) (separator : Text) :
    Starts (Text.join separator ts) := by
  cases ts with
  | nil => exact absurd rfl hne
  | cons t ts =>
    obtain ⟨tail, htail⟩ := Text.join_cons separator t ts
    rw [htail]
    exact (h t (List.mem_cons_self ..)).append tail

/-- Line breaks and indentations are blanks. -/
theorem skipSpace_newLine (level : Nat) (t : Text) :
    skipSpace (newLine level ++ t) = skipSpace t := by
  have hspace : ∀ c ∈ newLine level, isSpace c = true := by
    intro c hc
    rcases List.mem_cons.mp hc with rfl | hc
    · decide
    · rw [List.eq_of_mem_replicate hc]
      decide
  exact List.dropWhile_append_of_pos hspace

/-! ## Numbers -/

/-- The digits of a number end where it ends. -/
theorem spanDigits_append {digits rest : Text} (h : ∀ c ∈ digits, c.isDigit = true)
    (hrest : Apart rest) : spanDigits (digits ++ rest) = (digits, rest) := by
  have hnone : rest.takeWhile (·.isDigit) = [] ∧ rest.dropWhile (·.isDigit) = rest := by
    cases rest with
    | nil => exact ⟨rfl, rfl⟩
    | cons c rest => rcases hrest c rfl with rfl | rfl <;> exact ⟨rfl, rfl⟩
  unfold spanDigits
  rw [List.takeWhile_append_of_pos h, List.dropWhile_append_of_pos h, hnone.1, hnone.2,
    List.append_nil]

/-- No fraction follows a number that stands apart. -/
theorem readFraction_apart {rest : Text} (h : Apart rest) : readFraction rest = none := by
  cases rest with
  | nil => rfl
  | cons c rest => rcases h c rfl with rfl | rfl <;> rfl

/-- No exponent follows a number that stands apart. -/
theorem readExponent_apart {rest : Text} (h : Apart rest) : readExponent rest = none := by
  cases rest with
  | nil => rfl
  | cons c rest => rcases h c rfl with rfl | rfl <;> rfl

/-- How whole numbers begin: with a digit, or with a sign before one. -/
def BeginsNumber (c : CodePoint) (t : Text) : Prop :=
  c.isDigit = true ∨ c = .char '-' ∧ ∃ d more, t = d :: more ∧ d.isDigit = true

/-- What follows does not change how a number begins. -/
theorem BeginsNumber.append {c : CodePoint} {t : Text} (h : BeginsNumber c t) (rest : Text) :
    BeginsNumber c (t ++ rest) := by
  rcases h with hc | ⟨hminus, d, more, rfl, hd⟩
  · exact Or.inl hc
  · exact Or.inr ⟨hminus, d, more ++ rest, rfl, hd⟩

theorem BeginsNumber.startsValue {c : CodePoint} {t : Text} (h : BeginsNumber c t) :
    startsValue c = true := by
  rcases h with hc | ⟨rfl, _⟩
  · exact startsValue_of_isDigit hc
  · decide

/-- Neither a bracket nor a quote nor a letter begins a number. -/
theorem BeginsNumber.ne {c : CodePoint} {t : Text} (h : BeginsNumber c t) {d : CodePoint}
    (hdigit : d.isDigit = false) (hsign : d ≠ .char '-') : d ≠ c := by
  rintro rfl
  rcases h with hd | ⟨hd, _⟩
  · rw [hdigit] at hd
    cases hd
  · exact hsign hd

/-- The digits of a whole number begin one, with or without a sign. -/
theorem beginsNumber_ofInt (n : Int) : ∃ c t, Text.ofInt n = c :: t ∧ BeginsNumber c t := by
  obtain ⟨d, more, hdigits⟩ := List.exists_cons_of_ne_nil (Text.ofNat_ne_nil n.natAbs)
  have hd : d.isDigit = true :=
    Text.isDigit_of_mem_ofNat (n := n.natAbs) (hdigits ▸ List.mem_cons_self ..)
  unfold Text.ofInt
  rw [hdigits]
  split
  · exact ⟨_, _, rfl, Or.inr ⟨rfl, d, more, rfl, hd⟩⟩
  · exact ⟨d, more, rfl, Or.inl hd⟩

/-- A whole number of bounded size is read back from its digits. -/
theorem readNumber_ofInt {n : Int} (h : n.natAbs < 10 ^ maxDigits) {rest : Text}
    (hrest : Apart rest) : readNumber (Text.ofInt n ++ rest) = .ok (.int n, rest) := by
  have hdigit : ∀ c ∈ Text.ofNat n.natAbs, c.isDigit = true := fun c => Text.isDigit_of_mem_ofNat
  unfold readNumber
  split
  next negative unsigned hsign =>
    -- The sign is read off, ...
    have hunsigned : unsigned = Text.ofNat n.natAbs ++ rest ∧ negative = decide (n < 0) := by
      unfold Text.ofInt at hsign
      split at hsign
      next unsigned' heq =>
        split at heq
        next hneg =>
          cases heq
          cases hsign
          exact ⟨rfl, (decide_eq_true hneg).symm⟩
        next hneg =>
          obtain ⟨d, more, hdigits⟩ := List.exists_cons_of_ne_nil (Text.ofNat_ne_nil n.natAbs)
          rw [hdigits] at heq
          cases heq
          exact absurd (hdigit (.char '-') (hdigits ▸ List.mem_cons_self ..)) (by decide)
      next hnot =>
        cases hsign
        split at hnot
        next => exact absurd rfl (hnot _)
        next hneg =>
          rw [if_neg hneg]
          exact ⟨rfl, (decide_eq_false hneg).symm⟩
    obtain ⟨rfl, rfl⟩ := hunsigned
    split
    next digits after hdigits =>
      -- ... and then all digits, of which the first is a zero only if it is the only one.
      have hall : digits = Text.ofNat n.natAbs ∧ after = rest := by
        split at hdigits
        next after' heq =>
          cases hdigits
          cases hnumber : Text.ofNat n.natAbs with
          | nil => exact absurd hnumber (Text.ofNat_ne_nil _)
          | cons d more =>
            rw [hnumber] at heq
            obtain ⟨hzero, htail⟩ := List.cons.inj heq
            subst hzero
            obtain rfl := Text.eq_nil_of_ofNat hnumber
            exact ⟨rfl, htail.symm⟩
        next =>
          rw [spanDigits_append hdigit hrest] at hdigits
          cases hdigits
          exact ⟨rfl, rfl⟩
      obtain ⟨rfl, rfl⟩ := hall
      have hne : ¬ (Text.ofNat n.natAbs).isEmpty = true := fun hempty =>
        Text.ofNat_ne_nil _ (List.isEmpty_iff.mp hempty)
      have hlength : ¬ maxDigits < (Text.ofNat n.natAbs).length :=
        Nat.not_lt.mpr ((Text.length_ofNat_le_iff (by decide)).mpr h)
      have hvalue : (if decide (n < 0) = true then -(n.natAbs : Int) else n.natAbs) = n := by
        by_cases hneg : n < 0
        · rw [if_pos (decide_eq_true hneg)]
          omega
        · rw [if_neg (by simpa using hneg)]
          omega
      rw [if_neg hne]
      simp only [readFraction_apart hrest, readExponent_apart hrest, Option.map_none,
        Option.getD_none, Option.isNone_none, Bool.and_self, if_true, if_neg hlength,
        Text.toNat_ofNat, hvalue]

/-- No word begins as a number does. -/
theorem readWord?_number {c : CodePoint} {t : Text} (h : BeginsNumber c t) :
    readWord? (c :: t) = none := by
  have hfirst : ∀ (first : CodePoint) (more : Text), first.isDigit = false → first ≠ .char '-' →
      Text.dropStart? (first :: more) (c :: t) = none := by
    intro first more hdigit hsign
    rw [Text.dropStart?, if_neg (h.ne hdigit hsign)]
  have hword : ∀ word ∈ words.map (·.1), Text.dropStart? word (c :: t) = none := by
    intro word hword
    simp only [words, List.map_cons, List.map_nil, List.mem_cons, List.not_mem_nil,
      or_false] at hword
    rcases hword with rfl | rfl | rfl | rfl | rfl | rfl
    · exact hfirst _ _ (by decide) (by decide)
    · exact hfirst _ _ (by decide) (by decide)
    · exact hfirst _ _ (by decide) (by decide)
    · exact hfirst _ _ (by decide) (by decide)
    · exact hfirst _ _ (by decide) (by decide)
    · -- A sign is part of a word, but not before a digit.
      rcases h with hc | ⟨rfl, d, more, rfl, hd⟩
      · have hne : CodePoint.char '-' ≠ c := by
          rintro rfl
          exact absurd hc (by decide)
        exact if_neg hne
      · have hne : CodePoint.char 'I' ≠ d := by
          rintro rfl
          exact absurd hd (by decide)
        exact if_neg hne
  unfold readWord?
  rw [List.findSome?_eq_none_iff]
  rintro ⟨word, v⟩ hmem
  exact Option.map_eq_none_iff.mpr (hword word (List.mem_map.mpr ⟨_, hmem, rfl⟩))

/-- A value that begins like a number is read as one. -/
theorem readValue_number (g : Grammar) (depth fuel : Nat) {c : CodePoint} {t : Text}
    (h : BeginsNumber c t) : readValue g depth (fuel + 1) (c :: t) = readNumber (c :: t) := by
  unfold readValue
  split
  next heq => exact absurd (List.cons.inj heq).1.symm (h.ne (by decide) (by decide))
  next heq => exact absurd (List.cons.inj heq).1.symm (h.ne (by decide) (by decide))
  next heq => exact absurd (List.cons.inj heq).1.symm (h.ne (by decide) (by decide))
  next => rw [readWord?_number h]

end Scaffold.Json
