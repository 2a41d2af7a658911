/-!
# Code points and texts

A text is a finite sequence of code points. Names and source texts reach the program through JSON,
whose escapes can name one half of a surrogate pair without the other; such a code point is part of
a text although no file can hold it. `CodePoint` therefore has two constructors: a character, and a
lone surrogate.

Texts are plain lists, so every fact about lists is a fact about texts.

A pair of surrogates is two code points here like any other: nothing joins them but the readers of
JSON. Texts are ordered by the numbers of their code points, which is not the order of their bytes
in every encoding, but is that of the program.
-/

namespace Scaffold

/-- A code point: a character, or one of the 2048 surrogates. -/
inductive CodePoint where
  | char (c : Char)
  | surrogate (index : Fin 2048)
  deriving DecidableEq, Inhabited

namespace CodePoint

/-- The number of a code point, below `0x110000`. -/
def code : CodePoint → Nat
  | char c => c.toNat
  | surrogate index => 0xD800 + index.val

/-- The code point of a number. A number that is none gives U+0000. -/
def ofCode (n : Nat) : CodePoint :=
  if h : 0xD800 ≤ n ∧ n < 0xE000 then surrogate ⟨n - 0xD800, by omega⟩
  else char (Char.ofNat n)

instance : Coe Char CodePoint := ⟨char⟩

theorem ofCode_code (c : CodePoint) : ofCode c.code = c := by
  cases c with
  | char c =>
    have hsurrogate : ¬ (0xD800 ≤ c.toNat ∧ c.toNat < 0xE000) := by
      intro hparts
      rcases c.valid with h | h
      · exact absurd h (Nat.not_lt.mpr hparts.1)
      · exact absurd h.1 (Nat.not_lt.mpr (Nat.le_of_lt_succ hparts.2))
    unfold ofCode code
    rw [dif_neg hsurrogate, Char.ofNat_toNat]
  | surrogate index =>
    have hsurrogate : 0xD800 ≤ 0xD800 + index.val ∧ 0xD800 + index.val < 0xE000 := by omega
    unfold ofCode code
    rw [dif_pos hsurrogate]
    exact congrArg surrogate (Fin.ext (Nat.add_sub_cancel_left ..))

/-- Code points are told apart by their numbers. -/
theorem code_injective {c d : CodePoint} (h : c.code = d.code) : c = d := by
  rw [← ofCode_code c, h, ofCode_code]

theorem code_ofCode {n : Nat} (h : n < 0xD800) : (ofCode n).code = n := by
  unfold ofCode
  rw [dif_neg (by omega)]
  show (Char.ofNat n).toNat = n
  rw [Char.ofNat, dif_pos (Or.inl h)]
  rfl

end CodePoint

/-- A text: a sequence of code points. -/
abbrev Text := List CodePoint

namespace Text

/-- The text of a string of characters. -/
def ofString (s : String) : Text := s.toList.map .char

instance : Coe String Text := ⟨ofString⟩

/-- The text of a string that is given by its characters, as a literal is. To rewrite a long
literal with this is much faster than to compute its characters. -/
theorem ofString_ofList (cs : List Char) :
    ofString (no_index (String.ofList cs)) = cs.map .char := by
  rw [ofString, String.toList_ofList]

/-- Texts are ordered by the number of the first code point in which they differ. -/
def le : Text → Text → Bool
  | [], _ => true
  | _ :: _, [] => false
  | c :: r, d :: s => c.code < d.code || (c.code == d.code && le r s)

/-- The texts in ascending order; equal ones stay as many as they are. -/
def sorted (ts : List Text) : List Text := ts.mergeSort le

end Text

end Scaffold
