import Mathlib.Data.List.TakeWhile
import Scaffold.Proofs.Naming.Segments
import Scaffold.Proofs.Text.Endings
import Scaffold.Schema.Metadata

/-!
# Words that survive the plural

The rules for plurals and those for singulars go by different endings, so that the singular of the
plural of a word may be another word. On words of small letters both are functions of the word alone
(`pluralize_word`, `singularize_word`), and the words that come back are known by their spelling
(`survives_iff`).

A column such as `author_id` suggests a relation to the table that is the plural of its word. The
class of that table is the one that the word names exactly if the word survives its plural
(`suggested_class_iff`).
-/

namespace Scaffold

open Text (EndsIn without)

/-- The text is made of the letters `a` to `z`. -/
def Small (t : Text) : Prop := ∀ c ∈ t, c.isLower = true

instance (t : Text) : Decidable (Small t) :=
  inferInstanceAs (Decidable (∀ c ∈ t, c.isLower = true))

/-- Small letters and more small letters are small letters. -/
theorem Small.append {s t : Text} (h : Small s) (h' : Small t) : Small (s ++ t) :=
  fun c hc => (List.mem_append.mp hc).elim (h c) (h' c)

theorem Small.of_subset {s t : Text} (h : Small t) (hsub : s ⊆ t) : Small s :=
  fun c hc => h c (hsub hc)

/-- What the classes of code points say of a small letter. -/
theorem CodePoint.small_letter {c : CodePoint} (h : c.isLower = true) :
    c.code < 0x80 ∧ c.isUpper = false ∧ c.isAlphanumeric = true := by
  refine ⟨code_of_isAlphanumeric ?_, ?_, ?_⟩ <;>
    simp only [isAlphanumeric, isLower, isUpper, Bool.or_eq_true, Bool.and_eq_true,
      Bool.and_eq_false_iff, decide_eq_true_eq, decide_eq_false_iff_not] at h ⊢ <;>
    omega

/-- A small letter is its own lower case. -/
theorem CodePoint.lower_small {c : CodePoint} (h : c.isLower = true) : c.lower = [c] := by
  obtain ⟨hcode, hupper, _⟩ := small_letter h
  unfold lower
  rw [if_pos hcode, hupper]
  rfl

/-- Small letters are plain. -/
theorem Small.plain {t : Text} (h : Small t) : Plain t :=
  fun c hc => (CodePoint.small_letter (h c hc)).2.2

namespace Text

theorem flatMap_lower_of_small {t : Text} (h : Small t) : t.flatMap CodePoint.lower = t := by
  induction t with
  | nil => rfl
  | cons c t ih =>
    obtain ⟨hc, ht⟩ := List.forall_mem_cons.mp h
    rw [List.flatMap_cons, CodePoint.lower_small hc, ih ht]
    rfl

/-- Small letters stay as they are in lower case. -/
theorem lower_of_small {t : Text} (h : Small t) : lower t = t := by
  have hsigma : CodePoint.capitalSigma ∉ t := fun hmem => absurd (h _ hmem) (by decide)
  rw [lower_eq_flatMap hsigma, flatMap_lower_of_small h]

/-- No line feed ends a word of small letters. -/
theorem dropFinalLineFeed_of_small {t : Text} (h : Small t) : dropFinalLineFeed t = t :=
  dropFinalLineFeed_of_last fun hlast =>
    absurd (h _ (List.mem_of_getLast? hlast)) (by decide)

end Text

namespace Naming

/-! ## Words and endings -/

/-- The endings of consonants, but for `s`, that call for `es` in the plural. -/
def consonantEndings : List Text := ["x", "z", "ch", "sh"]

/-- The endings that call for `es` in the plural. -/
def hissingEndings : List Text := "s" :: consonantEndings

/-- The endings in `y` that keep it in the plural. -/
def vowelEndings : List Text := ["ay", "ey", "iy", "oy", "uy"]

/-- The endings in `s` of words that are no plurals. -/
def singularEndings : List Text := ["ss", "us", "is"]

/-- The words in `y` that are not the singular of their plural. -/
def lostInY : List Text := ["y", "sery", "specy"]

/-- The words that `s` makes uncountable. -/
def lostInS : List Text := ["new", "setting", "specie", "serie"]

/-- The endings that `s` makes those of no plural. -/
def openEndings : List Text := ["u", "i"]

/-- The endings in `e` that `s` makes those of a plural in `es`. -/
def hissedEndings : List Text :=
  ["sse", "she", "che", "xe", "ze", "statuse", "campuse", "bonuse", "viruse", "aliase", "censuse"]

/-- The endings in `s` that are known before `es`. -/
def keptEndings : List Text := ["ss", "status", "campus", "bonus", "virus", "alias", "census"]

/-- The uncountable words in `s`. -/
def keptWords : List Text := ["news", "series", "species", "settings"]

/-- The words of small letters that are not the singular of their plural. -/
def Lost (w : Text) : Prop :=
  w ∈ lostInY ++ lostInS ∨ (3 ≤ w.length ∧ EndsIn w ["ie"]) ∨
    EndsIn w (openEndings ++ hissedEndings) ∨
    (EndsIn w ["s"] ∧ ¬ EndsIn w keptEndings ∧ w ∉ keptWords)

instance (w : Text) : Decidable (Lost w) := by unfold Lost; infer_instance

/-! ## The rules on small letters -/

/-- A word of small letters is inflected as a whole. -/
theorem splitInflected_small {w : Text} (h : Small w) : splitInflected w = ([], w) := by
  have hcapital : splitLastCapital w = ([], w) := by
    have hnone : w.reverse.dropWhile (!·.isUpper) = [] := by
      refine List.dropWhile_eq_nil_iff.mpr fun c hc => ?_
      rw [(CodePoint.small_letter (h c (List.mem_reverse.mp hc))).2.1]
      rfl
    unfold splitLastCapital
    rw [hnone]
  by_cases hne : w = []
  · subst hne
    rfl
  · have hsplit := (splits_plain hne h.plain).1
    rwa [hcapital] at hsplit

/-- Small letters ask for none in capitals. -/
theorem matchCase_small {pattern : Text} (h : Small pattern) (word : Text) :
    matchCase word pattern = word := by
  have hnone : pattern.any (·.isUpper) = false :=
    List.any_eq_false.mpr fun c hc => by simp [(CodePoint.small_letter (h c hc)).2.1]
  unfold matchCase
  rw [hnone]
  cases pattern with
  | nil => rfl
  | cons c rest => simp [(CodePoint.small_letter (h c (List.mem_cons_self ..))).2.1]

/-- The rules for plurals, by the endings of the word. -/
theorem regularPlural_small {w : Text} (h : Small w) :
    regularPlural w =
      if EndsIn w ["y"] ∧ ¬ EndsIn w vowelEndings then Text.dropLast w 1 ++ "ies"
      else if EndsIn w hissingEndings then w ++ "es"
      else w ++ "s" := by
  unfold regularPlural
  simp only [Text.lower_of_small h]
  simp [← Text.any_endsWith_iff, vowelEndings, hissingEndings, consonantEndings, and_assoc,
    or_assoc]

/-- The rules for singulars, likewise. -/
theorem regularSingular_small {w : Text} (h : Small w) :
    regularSingular w =
      if EndsIn w ["ies"] ∧ 3 < w.length then Text.dropLast w 3 ++ "y"
      else if EndsIn w (sibilantWords ++ sibilantEndings) then Text.dropLast w 2
      else if EndsIn w singularEndings then w
      else if EndsIn w ["s"] then Text.dropLast w 1
      else w := by
  unfold regularSingular
  simp only [Text.lower_of_small h, Text.dropFinalLineFeed_of_small h, Text.endsIn_append,
    Text.any_endsWith_iff]
  by_cases hword : EndsIn w sibilantWords <;> by_cases hending : EndsIn w sibilantEndings <;>
    simp [hword, hending, ← Text.any_endsWith_iff, singularEndings, or_assoc]

/-- On small letters the plural is a matter of the lists of words and of the endings. -/
theorem pluralize_small {w : Text} (h : Small w) (hne : w ≠ []) :
    pluralize w = if w ∈ uncountables then w else (irregularPlural? w).getD (regularPlural w) := by
  unfold pluralize
  simp only [splitInflected_small h, Text.lower_of_small h, matchCase_small h, List.nil_append]
  cases irregularPlural? w <;> simp [hne]

/-- On small letters the singular is a matter of the lists of words and of the endings. -/
theorem singularize_small {w : Text} (h : Small w) :
    singularize w =
      if w ∈ uncountables then w else (irregularSingular? w).getD (regularSingular w) := by
  unfold singularize
  simp only [splitInflected_small h, Text.lower_of_small h, matchCase_small h, List.nil_append]
  cases w with
  | nil => rfl
  | cons c rest => cases irregularSingular? (c :: rest) <;> simp

/-- A plural that is listed is listed beside its word. -/
theorem irregularPlural?_eq_some {w plural : Text} (h : irregularPlural? w = some plural) :
    (w, plural) ∈ irregulars := by
  unfold irregularPlural? at h
  obtain ⟨before, after, hsplit, _⟩ := List.lookup_eq_some_iff.mp h
  rw [hsplit]
  exact List.mem_append_right _ (List.mem_cons_self ..)

theorem irregularSingular?_eq_none {w : Text} (h : w ∉ irregulars.map (·.2)) :
    irregularSingular? w = none := by
  unfold irregularSingular?
  rw [Option.map_eq_none_iff, List.find?_eq_none]
  intro entry hentry heq
  exact h (List.mem_map.mpr ⟨entry, hentry, of_decide_eq_true heq⟩)

/-! ## The singular of a plural -/

/-- The singular of a word with a regular tail follows its endings. -/
theorem singularize_append {w tail : Text} (h : Small (w ++ tail))
    (hcountable : w ++ tail ∉ uncountables)
    (hregular : without tail (irregulars.map (·.2)) = []) :
    singularize (w ++ tail) = regularSingular (w ++ tail) := by
  have hnone : irregularSingular? (w ++ tail) = none := by
    refine irregularSingular?_eq_none ?_
    rw [Text.append_mem_iff, hregular]
    exact List.not_mem_nil
  rw [singularize_small h, if_neg hcountable, hnone, Option.getD_none]

/-- The singular of what ends in `ies` ends in `y`, but for three words. -/
theorem singularize_ies {w : Text} (h : Small w) :
    singularize (w ++ "ies") = w ++ "y" ↔ w ∉ ([[], "ser", "spec"] : List Text) := by
  have hleft : without "ies" uncountables = (["ser", "spec"] : List Text) := by decide
  have hexceptions : ∀ v ∈ ([[], "ser", "spec"] : List Text),
      singularize (v ++ "ies") ≠ v ++ "y" := by
    decide
  by_cases hexcept : w ∈ ([[], "ser", "spec"] : List Text)
  · exact iff_of_false (hexceptions w hexcept) (not_not_intro hexcept)
  · have hsmall : Small (w ++ "ies") := h.append (by decide)
    have hcountable : w ++ "ies" ∉ uncountables := by
      rw [Text.append_mem_iff, hleft]
      exact fun hmem => hexcept (List.mem_cons_of_mem _ hmem)
    have hne : w ≠ [] := fun hnil => hexcept (hnil ▸ List.mem_cons_self ..)
    have hlong : EndsIn (w ++ "ies") ["ies"] ∧ 3 < (w ++ "ies").length := by
      refine ⟨⟨_, List.mem_singleton_self _, w, rfl⟩, ?_⟩
      rw [List.length_append, (by decide : (Text.ofString "ies").length = 3)]
      exact Nat.lt_add_of_pos_left (List.length_pos_iff.mpr hne)
    rw [singularize_append hsmall hcountable (by decide), regularSingular_small hsmall,
      if_pos hlong]
    exact iff_of_true (congrArg (· ++ Text.ofString "y") (Text.dropLast_append w "ies")) hexcept

/-- The singular of what ends in `es` after a hissing consonant lacks both letters or only one. -/
theorem singularize_es {w : Text} (h : Small w) (hhiss : EndsIn w hissingEndings) :
    singularize (w ++ "es") = w ↔ EndsIn w (keptEndings ++ consonantEndings) := by
  have hleft : without "es" uncountables = (["seri", "speci"] : List Text) := by decide
  have hsmall : Small (w ++ "es") := h.append (by decide)
  have hcountable : w ++ "es" ∉ uncountables := by
    have hnone : ∀ v ∈ (["seri", "speci"] : List Text), ¬ EndsIn v hissingEndings := by decide
    rw [Text.append_mem_iff, hleft]
    exact fun hmem => hnone w hmem hhiss
  -- `w` hisses, so it does not end with the `i` that the first rule asks for.
  have hies : ¬ EndsIn (w ++ "es") ["ies"] := by
    rw [Text.endsIn_append_iff (by decide),
      (by decide : without "es" ["ies"] = (["i"] : List Text))]
    exact hhiss.apart (by decide)
  have hhisses : EndsIn (w ++ "es") (sibilantWords ++ sibilantEndings) ↔
      EndsIn w (keptEndings ++ consonantEndings) := by
    rw [Text.endsIn_append_iff (by decide)]
    exact Text.endsIn_perm (by decide)
  have hsingular : ¬ EndsIn (w ++ "es") singularEndings := by
    rw [Text.endsIn_append_iff (by decide), (by decide : without "es" singularEndings = [])]
    exact Text.endsIn_nil w
  have hs : EndsIn (w ++ "es") ["s"] := ⟨_, List.mem_singleton_self _, w ++ "e", by simp; rfl⟩
  rw [singularize_append hsmall hcountable (by decide), regularSingular_small hsmall,
    if_neg fun hlong => hies hlong.1]
  simp only [hhisses, if_neg hsingular, if_pos hs]
  split
  next hhissed => exact iff_of_true (Text.dropLast_append w "es") hhissed
  next hhissed =>
    refine iff_of_false (fun heq => ?_) hhissed
    have hlength := congrArg List.length heq
    simp [Text.dropLast, Text.ofString] at hlength

/-- The singular of what ends in `s` after anything else lacks that letter, unless another rule
comes before. -/
theorem singularize_s {w : Text} (h : Small w) (hs : ¬ EndsIn w ["s"]) :
    singularize (w ++ "s") = w ↔ w ∉ lostInS ∧
      ¬ (3 ≤ w.length ∧ EndsIn w ["ie"]) ∧ ¬ EndsIn w hissedEndings ∧ ¬ EndsIn w openEndings := by
  have hleft : w ∈ without "s" uncountables ↔ w ∈ lostInS := List.Perm.mem_iff (by decide)
  have hsmall : Small (w ++ "s") := h.append (by decide)
  have hlength : (w ++ Text.ofString "s").length = w.length + 1 := List.length_append
  have hlonger : w ++ "s" ≠ w := by
    intro heq
    have := congrArg List.length heq
    omega
  -- Words without a plural come first; then the rules are tried in turn, and each asks of `w` what
  -- it asks of the word with the letter that was put to it.
  by_cases hcountable : w ++ "s" ∈ uncountables
  · rw [singularize_small hsmall, if_pos hcountable]
    rw [Text.append_mem_iff, hleft] at hcountable
    exact iff_of_false hlonger fun hparts => hparts.1 hcountable
  · have hies : EndsIn (w ++ "s") ["ies"] ↔ EndsIn w ["ie"] := by
      rw [Text.endsIn_append_iff (by decide),
        (by decide : without "s" ["ies"] = (["ie"] : List Text))]
    have hhissed : EndsIn (w ++ "s") (sibilantWords ++ sibilantEndings) ↔
        EndsIn w hissedEndings := by
      rw [Text.endsIn_append_iff (by decide)]
      exact Text.endsIn_perm (by decide)
    have hsingular : EndsIn (w ++ "s") singularEndings ↔ EndsIn w openEndings := by
      rw [Text.endsIn_append_iff (by decide),
        show without "s" singularEndings = [Text.ofString "s"] ++ openEndings by decide,
        Text.endsIn_append]
      exact or_iff_right hs
    have hends : EndsIn (w ++ "s") ["s"] := ⟨_, List.mem_singleton_self _, w, rfl⟩
    rw [singularize_append hsmall hcountable (by decide), regularSingular_small hsmall]
    rw [Text.append_mem_iff, hleft] at hcountable
    simp only [hies, hlength, hhissed, hsingular, if_pos hends]
    split
    -- What the first two rules make is shorter than `w`, so it is another word.
    next hlong =>
      refine iff_of_false (fun heq => ?_) fun hparts => hparts.2.1 ⟨by omega, hlong.1⟩
      have hshorter := congrArg List.length heq
      rw [List.length_append, Text.length_dropLast, hlength,
        (by decide : (Text.ofString "y").length = 1)] at hshorter
      omega
    next hlong =>
      have hshort : ¬ (3 ≤ w.length ∧ EndsIn w ["ie"]) := fun hie => hlong ⟨hie.2, by omega⟩
      split
      next hhiss =>
        refine iff_of_false (fun heq => ?_) fun hparts => hparts.2.2.1 hhiss
        have hshorter := congrArg List.length heq
        rw [Text.length_dropLast, hlength] at hshorter
        have hne : 0 < w.length := List.length_pos_iff.mpr fun hnil =>
          absurd (hnil ▸ hhiss) (by decide)
        omega
      next hhiss =>
        split
        next hvowel => exact iff_of_false hlonger fun hparts => hparts.2.2.2 hvowel
        next hvowel =>
          exact iff_of_true (Text.dropLast_append w "s") ⟨hcountable, hshort, hhiss, hvowel⟩

/-! ## Words that come back -/

/-- Words without a plural are never lost. -/
theorem not_lost_of_uncountable : ∀ w ∈ uncountables, singularize w = w ∧ ¬ Lost w := by
  decide

/-- Irregular words are never lost either. -/
theorem not_lost_of_irregular : ∀ e ∈ irregulars, singularize e.2 = e.1 ∧ ¬ Lost e.1 := by
  decide

/-- Of the words in `y` three are lost, by plurals that are listed. -/
theorem lost_y_iff {w : Text} : Lost (w ++ "y") ↔ w ∈ ([[], "ser", "spec"] : List Text) := by
  have hy : EndsIn (w ++ "y") ["y"] := ⟨_, List.mem_singleton_self _, w, rfl⟩
  have hie : ¬ EndsIn (w ++ "y") ["ie"] := hy.apart (by decide)
  have hendings : ¬ EndsIn (w ++ "y") (openEndings ++ hissedEndings) := hy.apart (by decide)
  have hs : ¬ EndsIn (w ++ "y") ["s"] := hy.apart (by decide)
  unfold Lost
  simp only [hie, hendings, hs, and_false, false_and, or_false]
  rw [Text.append_mem_iff, show without "y" (lostInY ++ lostInS) =
    ([[], Text.ofString "ser", Text.ofString "spec"] : List Text) by decide]

/-- Of the words that hiss, those with endings that lose no `es`. -/
theorem lost_hissing_iff {w : Text} (h : EndsIn w hissingEndings) (hcountable : w ∉ uncountables) :
    Lost w ↔ ¬ EndsIn w (keptEndings ++ consonantEndings) := by
  have hwords : w ∉ lostInY ++ lostInS := by
    have hnone : ∀ v ∈ lostInY ++ lostInS, ¬ EndsIn v hissingEndings := by decide
    exact fun hmem => hnone w hmem h
  have hie : ¬ EndsIn w ["ie"] := h.apart (by decide)
  have hendings : ¬ EndsIn w (openEndings ++ hissedEndings) := h.apart (by decide)
  have hkept : w ∉ keptWords := by
    have hall : ∀ v ∈ keptWords, v ∈ uncountables := by decide
    exact fun hmem => hcountable (hall w hmem)
  have hends : EndsIn w ["s"] ∨ EndsIn w consonantEndings :=
    Text.endsIn_append.mp (show EndsIn w ([Text.ofString "s"] ++ consonantEndings) from h)
  have hsingle : EndsIn w consonantEndings → ¬ EndsIn w ["s"] := fun hc => hc.apart (by decide)
  unfold Lost
  rw [@Text.endsIn_append w keptEndings]
  grind

/-- Of the words that take an `s`, those that a longer ending of the plural catches. -/
theorem lost_plain_iff {w : Text} (hy : ¬ (EndsIn w ["y"] ∧ ¬ EndsIn w vowelEndings))
    (hs : ¬ EndsIn w ["s"]) :
    Lost w ↔ w ∈ lostInS ∨ (3 ≤ w.length ∧ EndsIn w ["ie"]) ∨ EndsIn w hissedEndings ∨
      EndsIn w openEndings := by
  have hwords : w ∉ lostInY := by
    have hall : ∀ v ∈ lostInY, EndsIn v ["y"] ∧ ¬ EndsIn v vowelEndings := by decide
    exact fun hmem => hy (hall w hmem)
  unfold Lost
  rw [Text.endsIn_append, List.mem_append]
  grind

/-- A word of small letters survives its plural exactly if it is not among those that are lost. -/
theorem survives_iff {w : Text} (h : Small w) (hne : w ≠ []) :
    singularize (pluralize w) = w ↔ ¬ Lost w := by
  rw [pluralize_small h hne]
  by_cases huncountable : w ∈ uncountables
  · rw [if_pos huncountable]
    exact iff_of_true (not_lost_of_uncountable w huncountable).1
      (not_lost_of_uncountable w huncountable).2
  rw [if_neg huncountable]
  cases hirregular : irregularPlural? w with
  | some plural =>
    have hlisted := not_lost_of_irregular _ (irregularPlural?_eq_some hirregular)
    exact iff_of_true hlisted.1 hlisted.2
  | none =>
    rw [Option.getD_none, regularPlural_small h]
    split
    next hy =>
      obtain ⟨⟨e, he, v, rfl⟩, _⟩ := hy
      obtain rfl := List.mem_singleton.mp he
      have hv : Small v := h.of_subset (List.subset_append_left _ _)
      rw [lost_y_iff, show Text.dropLast (v ++ Text.ofString "y") 1 = v from
        Text.dropLast_append v "y"]
      exact singularize_ies hv
    next hy =>
      split
      next hhiss => rw [singularize_es h hhiss, lost_hissing_iff hhiss huncountable, not_not]
      next hhiss =>
        have hs : ¬ EndsIn w ["s"] := fun hs => hhiss (hs.mono (by decide))
        rw [singularize_s h hs, lost_plain_iff hy hs, not_or, not_or, not_or]

/-! ## Classes -/

theorem isJoint_of_isAlphanumeric {c : CodePoint} (h : c.isAlphanumeric = true) :
    isJoint c = false := by
  have hhyphen : c ≠ .char '-' := by
    rintro rfl
    cases h
  have hunderscore : c ≠ .char '_' := by
    rintro rfl
    cases h
  unfold isJoint
  rw [CodePoint.isBlank_of_isAlphanumeric h, decide_eq_false hhyphen, decide_eq_false hunderscore]
  rfl

/-- Letters and digits are a single word. -/
theorem studly_plain {t : Text} (h : Plain t) : studly t = Text.capitalize t := by
  unfold studly Text.pieces
  rw [Text.splitWhere_of_none fun c hc => isJoint_of_isAlphanumeric (h c hc)]
  cases t with
  | nil => rfl
  | cons c rest => simp

/-- A word of small letters has one capital in studly case. -/
theorem studly_small {t : Text} (h : Small t) : studly t = Text.capitalize t :=
  studly_plain h.plain

theorem upper_small {c : CodePoint} (h : c.isLower = true) :
    ∃ capital, c.upper = [capital] ∧ capital.code + 32 = c.code := by
  obtain ⟨hcode, _⟩ := CodePoint.small_letter h
  refine ⟨.ofCode (c.code - 32), ?_, ?_⟩
  · unfold CodePoint.upper
    rw [if_pos hcode, if_pos h]
  · rw [CodePoint.code_ofCode (by omega)]
    simp only [CodePoint.isLower, Bool.and_eq_true, decide_eq_true_eq] at h
    omega

/-- Words of small letters are told apart by their classes. -/
theorem studly_inj {s t : Text} (hs : Small s) (ht : Small t) : studly s = studly t ↔ s = t := by
  refine ⟨fun h => ?_, congrArg studly⟩
  rw [studly_small hs, studly_small ht] at h
  cases s with
  | nil =>
    cases t with
    | nil => rfl
    | cons d t =>
      obtain ⟨_, hupper, _⟩ := upper_small (ht d (List.mem_cons_self ..))
      simp [Text.capitalize, hupper] at h
  | cons c s =>
    obtain ⟨capital, hupper, hcode⟩ := upper_small (hs c (List.mem_cons_self ..))
    cases t with
    | nil => simp [Text.capitalize, hupper] at h
    | cons d t =>
      obtain ⟨capital', hupper', hcode'⟩ := upper_small (ht d (List.mem_cons_self ..))
      simp only [Text.capitalize, hupper, hupper', List.singleton_append, List.cons.injEq] at h
      rw [CodePoint.code_injective (hcode.symm.trans (h.1 ▸ hcode')), h.2]

/-- A singular is of small letters. -/
theorem small_singularize {w : Text} (h : Small w) : Small (singularize w) := by
  have hlisted : ∀ e ∈ irregulars, Small e.1 := by decide
  have hdrop : ∀ n, Small (Text.dropLast w n) := fun n => h.of_subset (List.take_subset _ _)
  have hy : Small "y" := by decide
  rw [singularize_small h]
  split
  next => exact h
  next =>
    cases hirregular : irregularSingular? w with
    | some singular =>
      obtain ⟨entry, hfound, rfl⟩ := Option.map_eq_some_iff.mp hirregular
      exact hlisted entry (List.mem_of_find?_eq_some hfound)
    | none =>
      rw [Option.getD_none, regularSingular_small h]
      repeat' split
      · exact (hdrop 3).append hy
      all_goals first | exact hdrop _ | exact h

/-- The plural of a word of small letters is of small letters. -/
theorem small_pluralize {w : Text} (h : Small w) (hne : w ≠ []) : Small (pluralize w) := by
  have hlisted : ∀ e ∈ irregulars, Small e.2 := by decide
  have hdrop : ∀ n, Small (Text.dropLast w n) := fun n => h.of_subset (List.take_subset _ _)
  rw [pluralize_small h hne]
  split
  next => exact h
  next =>
    cases hirregular : irregularPlural? w with
    | some plural => exact hlisted _ (irregularPlural?_eq_some hirregular)
    | none =>
      rw [Option.getD_none, regularPlural_small h]
      repeat' split
      · exact (hdrop 1).append (by decide)
      all_goals exact h.append (by decide)

/-- The class of the plural is that of the word exactly if the word survives. -/
theorem classOfTable_pluralize_iff {w : Text} (h : Small w) (hne : w ≠ []) :
    classOfTable (pluralize w) = studly w ↔ singularize (pluralize w) = w :=
  studly_inj (small_singularize (small_pluralize h hne)) h

end Naming

namespace Schema

/-! ## Suggested relations -/

theorem suggestedRelation?_of_name {c : Column} {w : Text} (hne : w ≠ [])
    (h : c.name = w ++ referenceSuffix) :
    c.suggestedRelation? =
      some { localColumn := c.name, referencedTable := Naming.pluralize w, inferred := true } := by
  unfold Column.suggestedRelation?
  rw [Text.dropEnd?_eq_some_iff.mpr h]
  cases w with
  | nil => exact absurd rfl hne
  | cons first rest => rfl

/-- A suggested relation starts at its column. -/
theorem localColumn_of_suggestedRelation? {c : Column} {r : Relation}
    (h : c.suggestedRelation? = some r) : r.localColumn = c.name := by
  unfold Column.suggestedRelation? at h
  split at h
  · cases h
    rfl
  · cases h

/-- Names suggest relations only if the catalog reports none of the table. -/
theorem relationsOf_unreported {columns : List Column} {reported : List Relation}
    (h : ∀ r ∈ reported, r.localColumn ∉ columns.map Column.name) :
    relationsOf columns reported = columns.filterMap Column.suggestedRelation? := by
  have hnone : (reported.filter fun r => (columns.map Column.name).elem r.localColumn) = [] := by
    refine List.filter_eq_nil_iff.mpr fun r hr helem => h r hr ?_
    simpa using helem
  unfold relationsOf
  rw [hnone]

/-- A column whose name is a word of small letters and the suffix of references suggests a relation
if the catalog reports none of the table. The class of the table that it refers to is the one that
the word names exactly if the word is the singular of its plural, and that is so for all words but
those that are lost. -/
theorem suggested_class_iff {w : Text} (h : Small w) (hne : w ≠ []) {columns : List Column}
    {reported : List Relation} (hcolumn : w ++ referenceSuffix ∈ columns.map Column.name)
    (hnone : ∀ r ∈ reported, r.localColumn ∉ columns.map Column.name) :
    (∃ r ∈ relationsOf columns reported, r.localColumn = w ++ referenceSuffix) ∧
      ∀ r ∈ relationsOf columns reported, r.localColumn = w ++ referenceSuffix →
        (Naming.classOfTable r.referencedTable = Naming.studly w ↔ ¬ Naming.Lost w) ∧
        (Naming.singularize (Naming.pluralize w) = w ↔ ¬ Naming.Lost w) := by
  have hsurvives := Naming.survives_iff h hne
  rw [relationsOf_unreported hnone]
  constructor
  · obtain ⟨c, hc, hname⟩ := List.mem_map.mp hcolumn
    exact ⟨_, List.mem_filterMap.mpr ⟨c, hc, suggestedRelation?_of_name hne hname⟩, hname⟩
  · intro r hr hlocal
    obtain ⟨c, _, hsuggested⟩ := List.mem_filterMap.mp hr
    have hname := (localColumn_of_suggestedRelation? hsuggested).symm.trans hlocal
    rw [suggestedRelation?_of_name hne hname] at hsuggested
    cases hsuggested
    exact ⟨(Naming.classOfTable_pluralize_iff h hne).trans hsurvives, hsurvives⟩

/-- The column `menu_id` refers to the table `menus`, whose class is not that of a menu; the column
`author_id` beside it refers to that of authors. -/
theorem suggested_class_iff_menu :
    let columns : List Column := [{ name := "menu_id" }, { name := "author_id" }]
    (∃ r ∈ relationsOf columns [], r.localColumn = "menu_id" ∧
      Naming.classOfTable r.referencedTable ≠ Naming.studly "menu") ∧
    ∃ r ∈ relationsOf columns [], r.localColumn = "author_id" ∧
      Naming.classOfTable r.referencedTable = Naming.studly "author" := by
  intro columns
  have hcolumn : ∀ w ∈ [Text.ofString "menu", Text.ofString "author"],
      Small w ∧ w ≠ [] ∧ w ++ referenceSuffix ∈ columns.map Column.name := by
    decide
  have hnone : ∀ r ∈ ([] : List Relation), r.localColumn ∉ columns.map Column.name := nofun
  obtain ⟨hsmall, hne, hthere⟩ := hcolumn "menu" (by decide)
  obtain ⟨⟨r, hr, hmenu⟩, hall⟩ := suggested_class_iff hsmall hne hthere hnone
  obtain ⟨hsmall', hne', hthere'⟩ := hcolumn "author" (by decide)
  obtain ⟨⟨r', hr', hauthor⟩, hall'⟩ := suggested_class_iff hsmall' hne' hthere' hnone
  refine ⟨⟨r, hr, hmenu, fun hclass => ?_⟩, r', hr', hauthor, ?_⟩
  · exact absurd ((hall r hr hmenu).1.mp hclass) (by decide)
  · exact (hall' r' hr' hauthor).1.mpr (by decide)

end Schema

end Scaffold
