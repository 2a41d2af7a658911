import Mathlib.Algebra.Group.Nat.Defs
import Scaffold.Text.Quoted

/-!
# Digits

The decimal digits of a number write that number and no other, start with a zero only if that is
all, and are as many as the size of the number calls for. Hexadecimal digits are filled up with
zeros, and four of them write each number below `0x10000` (`hex_four`).
-/

namespace Scaffold.Text

/-- Digits write less than the power of ten with as many zeros. -/
theorem foldl_digits_lt {α : Type} {value : α → Nat} {digits : List α}
    (h : ∀ d ∈ digits, value d < 10) (start : Nat) :
    digits.foldl (fun n d => 10 * n + value d) start < (start + 1) * 10 ^ digits.length := by
  induction digits generalizing start with
  | nil => simp
  | cons d rest ih =>
    obtain ⟨hd, hrest⟩ := List.forall_mem_cons.mp h
    rw [List.foldl_cons, List.length_cons]
    calc rest.foldl (fun n d => 10 * n + value d) (10 * start + value d)
        < (10 * start + value d + 1) * 10 ^ rest.length := ih hrest _
      _ ≤ ((start + 1) * 10) * 10 ^ rest.length := Nat.mul_le_mul_right _ (by omega)
      _ = (start + 1) * 10 ^ (rest.length + 1) := by rw [Nat.mul_assoc, Nat.pow_succ']

/-- As many digits write a number below that power of ten. -/
theorem toNat_lt {digits : Text} (h : ∀ c ∈ digits, c.isDigit = true) :
    toNat digits < 10 ^ digits.length := by
  have hvalue : ∀ c ∈ digits, c.code - 0x30 < 10 := by
    intro c hc
    have hdigit := h c hc
    unfold CodePoint.isDigit at hdigit
    simp only [Bool.and_eq_true, decide_eq_true_eq] at hdigit
    omega
  have hlt := foldl_digits_lt hvalue 0
  rw [Nat.zero_add, Nat.one_mul] at hlt
  exact hlt

/-! ## The digits of a number -/

/-- Every number has a digit. -/
theorem ofNat_ne_nil (n : Nat) : ofNat n ≠ [] :=
  fun h => Nat.toDigits_ne_nil (List.map_eq_nil_iff.mp h)

/-- The digits of a number are digits. -/
theorem isDigit_of_mem_ofNat {n : Nat} {c : CodePoint} (h : c ∈ ofNat n) : c.isDigit = true := by
  obtain ⟨d, hd, rfl⟩ := List.mem_map.mp h
  have hdigit := Nat.isDigit_of_mem_toDigits (by omega) (by omega) hd
  unfold Char.isDigit at hdigit
  unfold CodePoint.isDigit
  exact hdigit

/-- The digits of a number are read as the number. -/
theorem toNat_ofNat (n : Nat) : toNat (ofNat n) = n := by
  have hdigits : Nat.ofDigitChars 10 (Nat.toDigits 10 n) 0 = n := Nat.ofDigitChars_ten_toDigits
  rw [Nat.ofDigitChars_eq_foldl] at hdigits
  unfold toNat ofNat
  rw [List.foldl_map]
  exact hdigits

/-- A number has no more digits than some exactly if it is below that power of ten. -/
theorem length_ofNat_le_iff {n k : Nat} (hk : 0 < k) : (ofNat n).length ≤ k ↔ n < 10 ^ k := by
  unfold ofNat
  rw [List.length_map]
  exact Nat.length_toDigits_le_iff (by omega) hk

/-- Only zero itself is written with a zero at its start. -/
theorem eq_nil_of_ofNat {n : Nat} {rest : Text} (h : ofNat n = .char '0' :: rest) : rest = [] := by
  -- The zero adds nothing, so the rest would write the number with fewer digits than it has.
  have hdigits : ∀ c ∈ rest, c.isDigit = true := fun c hc =>
    isDigit_of_mem_ofNat (n := n) (h ▸ List.mem_cons_of_mem _ hc)
  have hn : n = toNat rest := by rw [← toNat_ofNat n, h]; rfl
  have hlength : ¬ (ofNat n).length ≤ rest.length := by
    rw [h, List.length_cons]
    omega
  apply List.eq_nil_of_length_eq_zero
  by_cases hzero : 0 < rest.length
  · exact absurd ((length_ofNat_le_iff hzero).mpr (hn ▸ toNat_lt hdigits)) hlength
  · omega

/-! ## Hexadecimal digits -/

/-- A hexadecimal digit. -/
def hexDigit (n : Nat) : CodePoint := .char (Nat.digitChar n)

/-- A number below sixteen has one hexadecimal digit. -/
theorem hex_one {n : Nat} (h : n < 16) : hex 1 n = [hexDigit n] := by
  rw [hex, ofString_ofList, Nat.toDigits_of_lt_base h]
  rfl

/-- The last digit is the remainder, and the digits before it are those of the quotient. -/
theorem hex_succ (width n : Nat) :
    hex (width + 2) n = hex (width + 1) (n / 16) ++ [hexDigit (n % 16)] := by
  simp only [hex, ofString_ofList]
  by_cases h : n < 16
  · rw [Nat.toDigits_of_lt_base h, Nat.div_eq_of_lt h, Nat.mod_eq_of_lt h]
    simp [Nat.toDigits_zero, zeros, List.replicate_succ', hexDigit]
  · rw [Nat.toDigits_of_base_le (by omega) (Nat.le_of_not_lt h), List.map_append,
      List.length_append, ← List.append_assoc]
    simp [hexDigit]

/-- Four digits write each number that they have room for. -/
theorem hex_four {n : Nat} (h : n < 0x10000) :
    hex 4 n = [hexDigit (n / 0x1000), hexDigit (n / 0x100 % 16), hexDigit (n / 0x10 % 16),
      hexDigit (n % 16)] := by
  have hfirst : n / 16 / 16 / 16 < 16 := by omega
  rw [hex_succ, hex_succ, hex_succ, hex_one hfirst, Nat.div_div_eq_div_mul n 16 16,
    Nat.div_div_eq_div_mul]
  rfl

end Scaffold.Text
