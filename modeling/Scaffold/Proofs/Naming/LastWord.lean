import Mathlib.Data.List.DropRight
import Scaffold.Proofs.Naming.Plural

/-!
# Only the last word is inflected

What stands before the last word of a name is of no concern to the word, if it sets the word off
(`SetsOff`): it is on one line and ends in no letter or digit of ASCII. If it does not, then some of
it is inflected together with the word (`exists_splits_of_not_setsOff`), and an irregular word is no
longer known by what is added before it: the plural of a child is three letters longer, and the rules
for regular words add or take two at most. So the singular and the plural of a name are those of its
last word after all that sets it off, and after nothing else (`inflects_last_word_iff`).
-/

namespace Scaffold.Naming

open Text (EndsIn)

/-! ## What is inflected with a word -/

/-- A word is cut before a capital or not at all. -/
theorem splitLastCapital_cases (word : Text) :
    splitLastCapital word = ([], word) ∨
      ∃ capital tail, (splitLastCapital word).2 = capital :: tail ∧ capital.isUpper = true := by
  unfold splitLastCapital
  dsimp only
  split
  next capital previous before hrest =>
    split
    next =>
      have hcapital := List.head?_dropWhile_not (!·.isUpper) word.reverse
      rw [hrest] at hcapital
      exact Or.inr ⟨capital, _, rfl, by simpa using hcapital⟩
    next => exact Or.inl rfl
  next => exact Or.inl rfl

/-- Small letters are inflected with at least the last code point of what they are run together
with. -/
theorem exists_splitLastCapital_append {start word : Text} (hne : start ≠ []) (hword : Small word) :
    ∃ rest, rest ≠ [] ∧ start = (splitLastCapital (start ++ word)).1 ++ rest ∧
      (splitLastCapital (start ++ word)).2 = rest ++ word := by
  rcases splitLastCapital_cases (start ++ word) with hwhole | hparts
  · rw [hwhole]
    exact ⟨start, hne, rfl, rfl⟩
  · obtain ⟨capital, tail, hlast, hcapital⟩ := hparts
    have hout : capital ∉ word := fun hmem =>
      Bool.false_ne_true ((CodePoint.small_letter (hword capital hmem)).2.1.symm.trans hcapital)
    -- The last part begins with a capital, so that it does not begin inside the word.
    rcases List.append_eq_append_iff.mp (append_splitLastCapital (start ++ word)) with
      ⟨rest, hstart, hrest⟩ | ⟨rest, _, hrest⟩
    · refine ⟨rest, ?_, hstart, hrest⟩
      rintro rfl
      rw [hlast, List.nil_append] at hrest
      exact hout (hrest ▸ List.mem_cons_self ..)
    · rw [hlast] at hrest
      exact absurd (hrest ▸ List.mem_append_right _ (List.mem_cons_self ..)) hout

/-- A name of several lines is a single word. -/
theorem splitLastWord_lines {name : Text} (hfeed : CodePoint.char '\n' ∈ name)
    (hlast : name.getLast? ≠ some (.char '\n')) : splitLastWord name = ([], name) := by
  have hbefore : CodePoint.char '\n' ∈ name.reverse.dropWhile (·.isAlphanumeric) := by
    have hmem := List.mem_reverse.mpr hfeed
    rw [← List.takeWhile_append_dropWhile (p := (·.isAlphanumeric)) (l := name.reverse)] at hmem
    refine (List.mem_append.mp hmem).resolve_left fun hrun => ?_
    exact absurd (List.mem_takeWhile_imp hrun) (by decide)
  have hany : (name.reverse.dropWhile (·.isAlphanumeric)).reverse.any (· = '\n') = true :=
    List.any_eq_true.mpr ⟨_, List.mem_reverse.mpr hbefore, rfl⟩
  unfold splitLastWord
  simp only [Text.dropFinalLineFeed_of_last hlast, hany, Bool.or_true, if_true]

/-- A text ends in a run of letters and digits, which may be empty. -/
theorem exists_last_run (t : Text) :
    ∃ lead run, t = lead ++ run ∧ Plain run ∧
      ∀ c, lead.getLast? = some c → c.isAlphanumeric = false := by
  refine ⟨t.rdropWhile (·.isAlphanumeric), t.rtakeWhile (·.isAlphanumeric), ?_, ?_, ?_⟩
  · exact List.rdropWhile_append_rtakeWhile.symm
  · exact fun c hc => List.mem_rtakeWhile_imp hc
  · intro c hc
    obtain ⟨hne, rfl⟩ := List.mem_getLast?_eq_getLast hc
    exact Bool.not_eq_true _ ▸ List.rdropWhile_last_not _ _ hne

/-- The last word begins before a word that is not set off: with the first line of several, or with
the letters and digits before it. -/
theorem splitLastWord_of_not_setsOff {before word : Text} (h : ¬ SetsOff before) (hne : word ≠ [])
    (hword : Plain word) :
    ∃ lead run, run ≠ [] ∧ before = lead ++ run ∧
      splitLastWord (before ++ word) = (lead, run ++ word) := by
  by_cases hline : CodePoint.char '\n' ∈ before
  · have hlast := getLast?_append_plain before hne hword
    exact ⟨[], before, List.ne_nil_of_mem hline, rfl,
      splitLastWord_lines (List.mem_append_left word hline) hlast⟩
  · obtain ⟨lead, run, rfl, hrun, hlead⟩ := exists_last_run before
    have hoff : SetsOff lead := ⟨fun hmem => hline (List.mem_append_left run hmem), hlead⟩
    refine ⟨lead, run, ?_, rfl, ?_⟩
    · rintro rfl
      rw [List.append_nil] at h
      exact h hoff
    · rw [List.append_assoc]
      exact splitLastWord_append hoff (List.append_ne_nil_of_right_ne_nil run hne)
        (hrun.append hword)

/-- Where a word is not set off, something before it is inflected with it. -/
theorem exists_splits_of_not_setsOff {before word : Text} (h : ¬ SetsOff before) (hne : word ≠ [])
    (hword : Small word) :
    ∃ start rest, rest ≠ [] ∧ before = start ++ rest ∧
      Splits (before ++ word) start (rest ++ word) := by
  obtain ⟨lead, run, hrun, rfl, hlast⟩ := splitLastWord_of_not_setsOff h hne hword.plain
  have hsplits := splits_of_splitLastWord hlast (List.append_assoc lead run word)
  obtain ⟨rest, hrest, hparts, hcapital⟩ := exists_splitLastCapital_append hrun hword
  rw [hcapital] at hsplits
  refine ⟨lead ++ (splitLastCapital (run ++ word)).1, rest, hrest, ?_, hsplits⟩
  rw [List.append_assoc, ← hparts]

/-! ## A word that shows it -/

/-- The rules for regular words take two letters off a word at most. -/
theorem length_regularSingular (word : Text) :
    word.length ≤ (regularSingular word).length + 2 := by
  have hy : (Text.ofString "y").length = 1 := rfl
  have hdrop : ∀ n ≤ 2, word.length ≤ (Text.dropLast word n).length + 2 := by
    intro n hn
    rw [Text.length_dropLast]
    omega
  unfold regularSingular
  dsimp only
  split
  next =>
    rw [List.length_append, Text.length_dropLast, hy]
    omega
  next =>
    repeat' split
    all_goals first | exact hdrop _ (by decide) | exact Nat.le_add_right ..

/-- The rules for regular words add two letters to a word at most. -/
theorem length_regularPlural {word : Text} (hne : word ≠ []) :
    (regularPlural word).length ≤ word.length + 2 := by
  have hlong := List.length_pos_of_ne_nil hne
  have hies : (Text.ofString "ies").length = 3 := rfl
  unfold regularPlural
  dsimp only
  split
  next =>
    rw [List.length_append, Text.length_dropLast, hies]
    omega
  next =>
    split <;> rw [List.length_append]
    next => exact Nat.le_refl _
    next => exact Nat.le_succ _

/-- There are three ways to match capitals. -/
theorem matchCase_mem (word pattern : Text) :
    matchCase word pattern ∈ [Text.upper word, Text.capitalize word, word] := by
  unfold matchCase
  split
  · simp
  · split
    · split <;> simp
    · simp

/-- If none of some words, in any capitals, ends in a tail but the tail itself, then nothing stands
before it. -/
theorem eq_nil_of_matchCase {words : List Text} {tail : Text}
    (halone : ∀ w ∈ words, ∀ t ∈ [Text.upper w, Text.capitalize w, w], EndsIn t [tail] → t = tail)
    {start word pattern : Text} (hword : word ∈ words)
    (h : matchCase word pattern = start ++ tail) : start = [] := by
  have hends : EndsIn (matchCase word pattern) [tail] := Text.endsIn_singleton_iff.mpr ⟨start, h⟩
  have htail := halone word hword _ (matchCase_mem word pattern) hends
  exact List.append_left_eq_self.mp (h.symm.trans htail)

theorem length_append_children (start : Text) :
    (start ++ Text.ofString "children").length = (start ++ Text.ofString "child").length + 3 := by
  rw [List.length_append, List.length_append]
  rfl

/-- Nothing can be added before an irregular plural that is still known as one. -/
theorem eq_nil_of_singularOf {start : Text}
    (h : singularOf (start ++ "children") = start ++ "child") : start = [] := by
  have hlengths := length_append_children start
  unfold singularOf at h
  dsimp only at h
  split at h
  next =>
    rw [h] at hlengths
    omega
  next =>
    split at h
    next singular hsingular =>
      obtain ⟨entry, hentry, rfl⟩ := Option.map_eq_some_iff.mp hsingular
      have hlisted := List.mem_map_of_mem (f := (·.1)) (List.mem_of_find?_eq_some hentry)
      exact eq_nil_of_matchCase (by decide) hlisted h
    next =>
      have hregular := length_regularSingular (start ++ "children")
      rw [h] at hregular
      omega

/-- The same for its singular. -/
theorem eq_nil_of_pluralOf {start : Text}
    (h : pluralOf (start ++ "child") = start ++ "children") : start = [] := by
  have hlengths := length_append_children start
  unfold pluralOf at h
  dsimp only at h
  split at h
  next =>
    rw [h] at hlengths
    omega
  next =>
    split at h
    next plural hplural =>
      have hlisted := List.mem_map_of_mem (f := (·.2)) (irregularPlural?_eq_some hplural)
      exact eq_nil_of_matchCase (by decide) hlisted h
    next =>
      have hregular : (regularPlural (start ++ "child")).length ≤ _ :=
        length_regularPlural (List.append_ne_nil_of_right_ne_nil start (by decide))
      rw [h] at hregular
      omega

/-! ## Names by what comes before their last word -/

/-- What leaves the singular of one word alone sets that word off. -/
theorem setsOff_of_singularize {before : Text}
    (h : singularize (before ++ "children") = before ++ "child") : SetsOff before := by
  by_contra hunset
  obtain ⟨start, rest, hrest, rfl, hsplits⟩ :=
    @exists_splits_of_not_setsOff _ "children" hunset (by decide) (by decide)
  rw [singularize_split hsplits, List.append_assoc] at h
  exact hrest (eq_nil_of_singularOf (List.append_cancel_left h))

/-- What leaves the plural of one word alone sets that word off. -/
theorem setsOff_of_pluralize {before : Text}
    (h : pluralize (before ++ "child") = before ++ "children") : SetsOff before := by
  by_contra hunset
  obtain ⟨start, rest, hrest, rfl, hsplits⟩ :=
    @exists_splits_of_not_setsOff _ "child" hunset (by decide) (by decide)
  rw [pluralize_split hsplits, List.append_assoc] at h
  exact hrest (eq_nil_of_pluralOf (List.append_cancel_left h))

/-- The singular of a name is that of its last word, after all that comes before, whatever the word
is, exactly if what comes before sets it off; and so is the plural. -/
theorem inflects_last_word_iff (before : Text) :
    ((∀ word, word ≠ [] → Plain word →
        singularize (before ++ word) = before ++ singularize word) ↔ SetsOff before) ∧
      ((∀ word, word ≠ [] → Plain word →
        pluralize (before ++ word) = before ++ pluralize word) ↔ SetsOff before) := by
  have hsingular : singularize "children" = Text.ofString "child" := by decide
  have hplural : pluralize "child" = Text.ofString "children" := by decide
  constructor
  · constructor
    · intro hall
      have hchildren := hall "children" (by decide) (by decide)
      rw [hsingular] at hchildren
      exact setsOff_of_singularize hchildren
    · intro h word hne hword
      exact singularize_after h hne hword
  · constructor
    · intro hall
      have hchild := hall "child" (by decide) (by decide)
      rw [hplural] at hchild
      exact setsOff_of_pluralize hchild
    · intro h word hne hword
      exact pluralize_after h hne hword

/-- Of a word in mixed case after a hyphen the last capital part is inflected; in one run with what
comes before, a word is not known. -/
theorem inflects_last_word_iff_categories :
    SetsOff "données-" ∧
      singularize ("données-" ++ "BlogCategories") = Text.ofString "données-BlogCategory" ∧
      pluralize ("données-" ++ "BlogChild") = Text.ofString "données-BlogChildren" ∧
      ¬ SetsOff "step" ∧ singularize ("step" ++ "children") = Text.ofString "stepchildren" := by
  have hoff : SetsOff "données-" := ⟨by decide, fun c hc => by cases hc; rfl⟩
  obtain ⟨hsingular, hplural⟩ := inflects_last_word_iff "données-"
  refine ⟨hoff, ?_, ?_, fun hstep => ?_, by decide⟩
  · rw [hsingular.mpr hoff "BlogCategories" (by decide) (by decide)]
    decide
  · rw [hplural.mpr hoff "BlogChild" (by decide) (by decide)]
    decide
  · exact absurd (hstep.last (.char 'p') rfl) (by decide)

end Scaffold.Naming
