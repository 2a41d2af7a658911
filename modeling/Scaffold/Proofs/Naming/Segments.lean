import Mathlib.Data.List.Basic
import Mathlib.Data.List.TakeWhile
import Scaffold.Proofs.Naming.Words

/-!
# The part of a name that is inflected

A name is put together from what comes before its last word and that word (`Splits`), and a word is
inflected alone. So the singular and the plural of a name are told by its split (`singularize_split`,
`pluralize_split`), and what sets off the last run of letters and digits (`SetsOff`) stays as it is
(`singularize_after`, `pluralize_after`).
-/

namespace Scaffold.Naming

/-! ## Words alone -/

/-- The singular of a word that is not split. -/
def singularOf (word : Text) : Text :=
  let small := Text.lower word
  if small.isEmpty || uncountables.elem small then word
  else match irregularSingular? small with
    | some singular => matchCase singular word
    | none => regularSingular word

/-- The plural of a word that is not split. -/
def pluralOf (word : Text) : Text :=
  let small := Text.lower word
  if small.isEmpty || uncountables.elem small then word
  else match irregularPlural? small with
    | some plural => matchCase plural word
    | none => regularPlural word

/-- The name is what comes before the part that is inflected, and that part. -/
def Splits (name before word : Text) : Prop :=
  splitInflected name = (before, word) ∧ name = before ++ word

/-- The singular of a name is that of its word, behind what comes before. -/
theorem singularize_split {name before word : Text} (h : Splits name before word) :
    singularize name = before ++ singularOf word := by
  obtain ⟨hsplit, hname⟩ := h
  unfold singularize singularOf
  simp only [hsplit]
  split
  next => exact hname
  next => cases irregularSingular? (Text.lower word) <;> rfl

/-- The plural of a name is that of its word, behind what comes before. -/
theorem pluralize_split {name before word : Text} (h : Splits name before word) :
    pluralize name = before ++ pluralOf word := by
  obtain ⟨hsplit, hname⟩ := h
  unfold pluralize pluralOf
  simp only [hsplit]
  split
  next => exact hname
  next => cases irregularPlural? (Text.lower word) <;> rfl

/-! ## Splits -/

/-- The text sets off a word that follows it: it is on one line, and its last code point is no
letter or digit of ASCII. -/
structure SetsOff (before : Text) : Prop where
  line : CodePoint.char '\n' ∉ before
  last : ∀ c, before.getLast? = some c → c.isAlphanumeric = false

/-- A name that ends in a word does not end in a line feed. -/
theorem getLast?_append_plain (before : Text) {word : Text} (hne : word ≠ []) (hword : Plain word) :
    (before ++ word).getLast? ≠ some (.char '\n') := by
  rw [List.getLast?_append_of_ne_nil _ hne]
  exact fun hlast => absurd (hword _ (List.mem_of_getLast? hlast)) (by decide)

/-- The last run of letters and digits is found after what sets it off. -/
theorem splitLastWord_append {before word : Text} (hoff : SetsOff before) (hne : word ≠ [])
    (hword : Plain word) : splitLastWord (before ++ word) = (before, word) := by
  have hreversed : ∀ c ∈ word.reverse, c.isAlphanumeric = true :=
    fun c hc => hword c (List.mem_reverse.mp hc)
  obtain ⟨hnone, hall⟩ : before.reverse.takeWhile (·.isAlphanumeric) = [] ∧
      before.reverse.dropWhile (·.isAlphanumeric) = before.reverse := by
    cases hlast : before.reverse with
    | nil => exact ⟨rfl, rfl⟩
    | cons c rest =>
      have hc := hoff.last c (by rw [← List.head?_reverse, hlast]; rfl)
      exact ⟨List.takeWhile_cons_of_neg (by simp [hc]), List.dropWhile_cons_of_neg (by simp [hc])⟩
  have htake : (before ++ word).reverse.takeWhile (·.isAlphanumeric) = word.reverse := by
    rw [List.reverse_append, List.takeWhile_append_of_pos hreversed, hnone, List.append_nil]
  have hdrop : (before ++ word).reverse.dropWhile (·.isAlphanumeric) = before.reverse := by
    rw [List.reverse_append, List.dropWhile_append_of_pos hreversed, hall]
  have hfeed : before.any (· = '\n') = false := by
    rw [List.any_eq_false]
    rintro c hc heq
    exact hoff.line (of_decide_eq_true heq ▸ hc)
  have hlast := getLast?_append_plain before hne hword
  unfold splitLastWord
  simp only [Text.dropFinalLineFeed_of_last hlast, htake, hdrop, List.reverse_reverse, hfeed]
  simp [hne]

/-- The capital of the last part of a word splits nothing off the word. -/
theorem append_splitLastCapital (word : Text) :
    (splitLastCapital word).1 ++ (splitLastCapital word).2 = word := by
  have hparts : word.reverse.takeWhile (!·.isUpper) ++ word.reverse.dropWhile (!·.isUpper) =
      word.reverse := List.takeWhile_append_dropWhile
  unfold splitLastCapital
  dsimp only
  split
  next capital previous before hrest =>
    split
    next =>
      rw [hrest] at hparts
      have hword := congrArg List.reverse hparts
      rw [List.reverse_append, List.reverse_reverse, List.reverse_cons, List.append_assoc] at hword
      exact hword
    next => rfl
  next => rfl

/-- The last word is split by its last capital. -/
theorem splits_of_splitLastWord {name before word : Text}
    (hsplit : splitLastWord name = (before, word)) (hname : name = before ++ word) :
    Splits name (before ++ (splitLastCapital word).1) (splitLastCapital word).2 := by
  refine ⟨?_, ?_⟩
  · unfold splitInflected
    simp only [hsplit]
  · rw [List.append_assoc, append_splitLastCapital, hname]

/-- What sets off the last word is not inflected. -/
theorem splits_after {before word : Text} (hoff : SetsOff before) (hne : word ≠ [])
    (hword : Plain word) :
    Splits (before ++ word) (before ++ (splitLastCapital word).1) (splitLastCapital word).2 :=
  splits_of_splitLastWord (splitLastWord_append hoff hne hword) rfl

/-- A word of letters and digits is split by its last capital alone. -/
theorem splits_plain {word : Text} (hne : word ≠ []) (hword : Plain word) :
    Splits word (splitLastCapital word).1 (splitLastCapital word).2 :=
  @splits_after [] word ⟨List.not_mem_nil, nofun⟩ hne hword

/-! ## Names by their last word -/

section

variable {before word : Text} (hoff : SetsOff before) (hne : word ≠ []) (hword : Plain word)

include hoff hne hword

/-- The singular of a name is that of its last word, after what stands before. -/
theorem singularize_after : singularize (before ++ word) = before ++ singularize word := by
  rw [singularize_split (splits_after hoff hne hword),
    singularize_split (splits_plain hne hword), List.append_assoc]

/-- The plural of a name is that of its last word, after what stands before. -/
theorem pluralize_after : pluralize (before ++ word) = before ++ pluralize word := by
  rw [pluralize_split (splits_after hoff hne hword),
    pluralize_split (splits_plain hne hword), List.append_assoc]

end

end Scaffold.Naming
