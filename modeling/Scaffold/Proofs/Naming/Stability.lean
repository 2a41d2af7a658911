import Scaffold.Proofs.Naming.Plural

/-!
# Singulars of singulars

The singular of a word should be a singular. On words of small letters the rules take off one ending
each (`Sheds`), and a word is its own singular exactly if no rule finds an ending on it (`Settled`,
`singularize_eq_self_iff`). What the rules leave is settled but for two kinds of words: the plural
of an irregular plural leads to that plural, which has a singular of its own, and what is left of
`aliases` ends in an `s` that is taken for another plural (`singularize_stable_iff`).

`Sheds` has one constructor for each rule, with the conditions under which no earlier rule fits
among its premises. So the case distinction of the rules is made once, and what is said about
singulars of singulars goes by cases on it.
-/

namespace Scaffold.Naming

open Text (EndsIn without)

/-- Irregular plurals with a second ending. -/
def doublePlurals : List Text :=
  ["peoples", "mens", "womens", "childrens", "teeths", "feets", "mices", "geeses", "oxens"]

/-- The word is no irregular plural, and an `s` at its end is its own. -/
def Settled (w : Text) : Prop :=
  w ∉ irregulars.map (·.2) ∧ (EndsIn w ["s"] → w ∈ uncountables ∨ EndsIn w singularEndings)

/-! ## Rules -/

/-- What the rules for regular words make of a word of small letters: the first that fits wins. -/
inductive Sheds : (w singular : Text) → Prop
  | ies {v : Text} (hne : v ≠ []) : Sheds (v ++ "ies") (v ++ "y")
  | es {v : Text} (h : EndsIn v (keptEndings ++ consonantEndings)) : Sheds (v ++ "es") v
  | kept {w : Text} (h : EndsIn w singularEndings) : Sheds w w
  | s {v : Text} (hopen : ¬ EndsIn v ("s" :: openEndings)) (hhissed : ¬ EndsIn v hissedEndings)
    (hshort : ¬ (3 ≤ v.length ∧ EndsIn v ["ie"])) : Sheds (v ++ "s") v
  | bare {w : Text} (h : ¬ EndsIn w ["s"]) : Sheds w w

/-- Each rule takes off the ending that it is for. -/
theorem sheds_regularSingular {w : Text} (h : Small w) : Sheds w (regularSingular w) := by
  rw [regularSingular_small h]
  split
  next hies =>
    obtain ⟨hends, hlong⟩ := hies
    obtain ⟨v, rfl⟩ := Text.endsIn_singleton_iff.mp hends
    rw [show Text.dropLast (v ++ Text.ofString "ies") 3 = v from Text.dropLast_append v "ies"]
    refine .ies ?_
    rintro rfl
    exact absurd hlong (by decide)
  next hies =>
    split
    next hhiss =>
      have hes : EndsIn w ["es"] := hhiss.trans (by decide)
      obtain ⟨v, rfl⟩ := Text.endsIn_singleton_iff.mp hes
      rw [show Text.dropLast (v ++ Text.ofString "es") 2 = v from Text.dropLast_append v "es"]
      rw [Text.endsIn_append_iff (by decide)] at hhiss
      exact .es ((Text.endsIn_perm (by decide)).mp hhiss)
    next hhiss =>
      split
      next hkept => exact .kept hkept
      next hkept =>
        split
        next hs =>
          obtain ⟨v, rfl⟩ := Text.endsIn_singleton_iff.mp hs
          rw [show Text.dropLast (v ++ Text.ofString "s") 1 = v from Text.dropLast_append v "s"]
          rw [Text.endsIn_append_iff (by decide)] at hhiss hkept
          rw [Text.endsIn_append_iff (by decide), List.length_append] at hies
          refine .s hkept (fun hhissed => hhiss ?_) fun hshort => hies ?_
          · exact (Text.endsIn_perm (by decide)).mp hhissed
          · exact ⟨hshort.2, Nat.lt_succ_of_le hshort.1⟩
        next hs => exact .bare hs

/-- The singular of a word that is not listed sheds the ending that the first fitting rule is for.
-/
theorem sheds_singularize {w : Text} (h : Small w) (hcountable : w ∉ uncountables)
    (hregular : w ∉ irregulars.map (·.2)) : Sheds w (singularize w) := by
  rw [singularize_small h, if_neg hcountable, irregularSingular?_eq_none hregular, Option.getD_none]
  exact sheds_regularSingular h

/-! ## Words that are their own singular -/

/-- A settled word that ends in `s` has an ending that no rule takes. -/
theorem Settled.endsIn {w : Text} (h : Settled w) (hcountable : w ∉ uncountables)
    (hs : EndsIn w ["s"]) : EndsIn w singularEndings :=
  (h.2 hs).resolve_left hcountable

/-- A word with such an ending is settled. -/
theorem settled_of_kept {w : Text} (hregular : w ∉ irregulars.map (·.2))
    (hkept : EndsIn w singularEndings) : Settled w :=
  ⟨hregular, fun _ => Or.inr hkept⟩

/-- A word without an `s` at its end is settled. -/
theorem settled_of_bare {w : Text} (hregular : w ∉ irregulars.map (·.2))
    (hs : ¬ EndsIn w ["s"]) : Settled w :=
  ⟨hregular, fun hends => absurd hends hs⟩

/-- A word of small letters is its own singular exactly if it is settled. -/
theorem singularize_eq_self_iff {w : Text} (h : Small w) : singularize w = w ↔ Settled w := by
  by_cases hcountable : w ∈ uncountables
  · have hlisted : ∀ v ∈ uncountables, Settled v := by
      unfold Settled
      decide
    exact iff_of_true (not_lost_of_uncountable w hcountable).1 (hlisted w hcountable)
  by_cases hregular : w ∈ irregulars.map (·.2)
  · have hlisted : ∀ v ∈ irregulars.map (·.2), singularize v ≠ v ∧ ¬ Settled v := by
      unfold Settled
      decide
    exact iff_of_false (hlisted w hregular).1 (hlisted w hregular).2
  -- What loses an ending is another word, and it had one that is not kept.
  have hlost : EndsIn w ["s"] → ¬ EndsIn w singularEndings → ¬ Settled w :=
    fun hs hkept hsettled => hkept (hsettled.endsIn hcountable hs)
  have hshorter : ∀ {v tail : Text}, tail ≠ [] → v ≠ v ++ tail :=
    fun hne heq => hne (List.append_right_eq_self.mp heq.symm)
  have hsheds := sheds_singularize h hcountable hregular
  generalize singularize w = singular at hsheds ⊢
  cases hsheds with
  | @ies v hne =>
    have hends : EndsIn (v ++ "ies") ["ies"] := Text.endsIn_singleton_iff.mpr ⟨v, rfl⟩
    refine iff_of_false (fun heq => ?_)
      (hlost (hends.trans (by decide)) (hends.apart (by decide)))
    exact absurd (List.append_cancel_left heq) (by decide)
  | es _ =>
    have hends : EndsIn (singular ++ "es") ["es"] := Text.endsIn_singleton_iff.mpr ⟨singular, rfl⟩
    exact iff_of_false (hshorter (by decide))
      (hlost (hends.trans (by decide)) (hends.apart (by decide)))
  | s hopen =>
    refine iff_of_false (hshorter (by decide))
      (hlost (Text.endsIn_singleton_iff.mpr ⟨singular, rfl⟩) ?_)
    rw [Text.endsIn_append_iff (by decide)]
    exact hopen
  | kept hkept => exact iff_of_true rfl (settled_of_kept hregular hkept)
  | bare hs => exact iff_of_true rfl (settled_of_bare hregular hs)

/-! ## What the rules leave -/

/-- What is left of a word in `es` after a hissing sound is settled unless its `s` is that of
`alias`. -/
theorem settled_hissing_iff {w : Text} (h : EndsIn w (keptEndings ++ consonantEndings)) :
    Settled w ↔ ¬ EndsIn w ["alias"] := by
  have hlisted : ∀ v ∈ uncountables ++ irregulars.map (·.2),
      ¬ EndsIn v (keptEndings ++ consonantEndings) := by
    decide
  have hcountable : w ∉ uncountables := fun hmem => hlisted w (List.mem_append_left _ hmem) h
  have hregular : w ∉ irregulars.map (·.2) := fun hmem => hlisted w (List.mem_append_right _ hmem) h
  have hends : EndsIn w ("alias" :: (singularEndings ++ consonantEndings)) := h.trans (by decide)
  have hsplit : EndsIn w ["alias"] ∨ EndsIn w singularEndings ∨ EndsIn w consonantEndings := by
    rwa [← Text.endsIn_append, ← Text.endsIn_append]
  rcases hsplit with halias | hkept | hconsonant
  · refine iff_of_false (fun hsettled => ?_) (not_not_intro halias)
    exact halias.apart (by decide) (hsettled.endsIn hcountable (halias.trans (by decide)))
  · exact iff_of_true (settled_of_kept hregular hkept) (hkept.apart (by decide))
  · exact iff_of_true (settled_of_bare hregular (hconsonant.apart (by decide)))
      (hconsonant.apart (by decide))

/-- The singular of a word of small letters is settled but for the words whose singular has another
one. -/
theorem settled_singularize_iff {w : Text} (h : Small w) :
    Settled (singularize w) ↔ ¬ EndsIn w ["aliases"] ∧ w ∉ doublePlurals := by
  by_cases hlisted : w ∈ uncountables ++ irregulars.map (·.2)
  · have hall : ∀ v ∈ uncountables ++ irregulars.map (·.2),
        Settled (singularize v) ∧ ¬ EndsIn v ["aliases"] ∧ v ∉ doublePlurals := by
      unfold Settled
      decide
    exact iff_of_true (hall w hlisted).1 (hall w hlisted).2
  obtain ⟨hcountable, hregular⟩ := not_or.mp (mt List.mem_append.mpr hlisted)
  -- A word that ends in something is no double plural if none of those does.
  have hsingle : ∀ {endings : List Text}, EndsIn w endings →
      (∀ v ∈ doublePlurals, ¬ EndsIn v endings) → w ∉ doublePlurals :=
    fun hends hnone hmem => hnone w hmem hends
  have hsheds := sheds_singularize h hcountable hregular
  generalize singularize w = singular at hsheds ⊢
  cases hsheds with
  | @ies v hne =>
    have hends : EndsIn (v ++ "ies") ["ies"] := Text.endsIn_singleton_iff.mpr ⟨v, rfl⟩
    have hy : EndsIn (v ++ "y") ["y"] := Text.endsIn_singleton_iff.mpr ⟨v, rfl⟩
    have hplural : v ++ "y" ∉ irregulars.map (·.2) := by
      have hnone : ∀ e ∈ irregulars.map (·.2), ¬ EndsIn e ["y"] := by decide
      exact fun hmem => hnone _ hmem hy
    exact iff_of_true (settled_of_bare hplural (hy.apart (by decide)))
      ⟨hends.apart (by decide), hsingle hends (by decide)⟩
  | es hends =>
    have hlast : EndsIn (singular ++ "es") ["aliases"] ↔ EndsIn singular ["alias"] :=
      Text.endsIn_append_iff (by decide)
    have hdouble : singular ++ "es" ∉ doublePlurals := by
      have hnone : ∀ v ∈ without "es" doublePlurals,
          ¬ EndsIn v (keptEndings ++ consonantEndings) := by
        decide
      rw [Text.append_mem_iff]
      exact fun hmem => hnone _ hmem hends
    rw [hlast, and_iff_left hdouble]
    exact settled_hissing_iff hends
  | kept hkept =>
    exact iff_of_true (settled_of_kept hregular hkept)
      ⟨hkept.apart (by decide), hsingle hkept (by decide)⟩
  | s hopen hhissed =>
    have hlast : ¬ EndsIn (singular ++ "s") ["aliases"] := by
      rw [Text.endsIn_append_iff (by decide)]
      exact fun hends => hhissed (hends.mono (by decide))
    have hdouble : singular ++ "s" ∈ doublePlurals ↔ singular ∈ irregulars.map (·.2) := by
      rw [Text.append_mem_iff, show without "s" doublePlurals = irregulars.map (·.2) by decide]
    have hs : ¬ EndsIn singular ["s"] := fun hends => hopen (hends.mono (by decide))
    rw [and_iff_right hlast, hdouble]
    exact ⟨fun hsettled => hsettled.1, fun hplural => settled_of_bare hplural hs⟩
  | bare hs =>
    have hall : ∀ v ∈ doublePlurals, EndsIn v ["s"] := by decide
    exact iff_of_true (settled_of_bare hregular hs)
      ⟨fun hends => hs (hends.trans (by decide)), fun hmem => hs (hall w hmem)⟩

/-- For words of small letters, the singular is its own singular exactly if the word neither ends in
`aliases` nor is an irregular plural with a second ending. -/
theorem singularize_stable_iff {w : Text} (h : Small w) :
    singularize (singularize w) = singularize w ↔
      ¬ EndsIn w ["aliases"] ∧ w ∉ doublePlurals :=
  (singularize_eq_self_iff (small_singularize h)).trans (settled_singularize_iff h)

/-- The status of statuses stays; aliases come to `alia`, and geese with a second ending to the
goose. -/
theorem singularize_stable_iff_statuses :
    (Small "statuses" ∧ singularize (singularize "statuses") = singularize "statuses") ∧
      (Small "aliases" ∧ singularize (singularize "aliases") ≠ singularize "aliases") ∧
      Small "geeses" ∧ singularize (singularize "geeses") ≠ singularize "geeses" := by
  have hsmall : Small "statuses" ∧ Small "aliases" ∧ Small "geeses" := by decide
  refine ⟨⟨hsmall.1, (singularize_stable_iff hsmall.1).mpr (by decide)⟩,
    ⟨hsmall.2.1, fun h => ?_⟩, hsmall.2.2, fun h => ?_⟩
  · exact absurd ((singularize_stable_iff hsmall.2.1).mp h) (by decide)
  · exact absurd ((singularize_stable_iff hsmall.2.2).mp h) (by decide)

end Scaffold.Naming
