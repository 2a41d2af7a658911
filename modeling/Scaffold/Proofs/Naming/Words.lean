import Scaffold.Naming.Convention
import Scaffold.Proofs.Text.Endings

/-!
# Names in ASCII

Naming works on single letters and on endings, so a name of ASCII letters, digits and underscores
(`TableName`) leads to names of such code points again. The class of such a table is plain: it has
letters and digits only (`plain_classOfTable`), and so is the name in camel case (`plain_camel`).

For most of this it is enough that the parts of a name hold nothing but what the name holds, so the
splits are treated as subsets first. What is put in by the rules themselves, irregular words and
endings, is plain by inspection.

The second half is about pieces of texts: what is cut at separators and joined again, and what each
piece can hold.
-/

namespace Scaffold

/-- The text is made of ASCII letters and digits. -/
def Plain (t : Text) : Prop := ∀ c ∈ t, c.isAlphanumeric = true

/-- The text is made of ASCII letters, digits and underscores. -/
def TableName (t : Text) : Prop := ∀ c ∈ t, c.isAlphanumeric = true ∨ c = .char '_'

instance (t : Text) : Decidable (Plain t) :=
  inferInstanceAs (Decidable (∀ c ∈ t, c.isAlphanumeric = true))

instance (t : Text) : Decidable (TableName t) :=
  inferInstanceAs (Decidable (∀ c ∈ t, c.isAlphanumeric = true ∨ c = .char '_'))

/-- Plain texts one after the other are plain. -/
theorem Plain.append {s t : Text} (h : Plain s) (h' : Plain t) : Plain (s ++ t) :=
  fun c hc => (List.mem_append.mp hc).elim (h c) (h' c)

/-- A plain text is a name. -/
theorem Plain.tableName {t : Text} (h : Plain t) : TableName t := fun c hc => Or.inl (h c hc)

/-- Names one after the other are a name. -/
theorem TableName.append {s t : Text} (h : TableName s) (h' : TableName t) :
    TableName (s ++ t) :=
  fun c hc => (List.mem_append.mp hc).elim (h c) (h' c)

theorem TableName.of_subset {s t : Text} (h : TableName t) (hsub : s ⊆ t) : TableName s :=
  fun c hc => h c (hsub hc)

/-- Letters and digits are in ASCII. -/
theorem CodePoint.code_of_isAlphanumeric {c : CodePoint} (h : c.isAlphanumeric = true) :
    c.code < 0x80 := by
  simp only [CodePoint.isAlphanumeric, CodePoint.isLower, CodePoint.isUpper, CodePoint.isDigit,
    Bool.or_eq_true, Bool.and_eq_true, decide_eq_true_eq] at h
  omega

/-- Letters and digits are no blanks. -/
theorem CodePoint.isBlank_of_isAlphanumeric {c : CodePoint} (h : c.isAlphanumeric = true) :
    c.isBlank = false := by
  simp only [CodePoint.isAlphanumeric, CodePoint.isLower, CodePoint.isUpper, CodePoint.isDigit,
    Bool.or_eq_true, Bool.and_eq_true, decide_eq_true_eq] at h
  simp only [CodePoint.isBlank, Text.Table.holds, Text.Table.blank, List.any_eq_false]
  intro run hrun
  simp only [List.mem_cons, List.not_mem_nil, or_false] at hrun
  rcases hrun with rfl | rfl | rfl | rfl | rfl | rfl | rfl | rfl | rfl | rfl <;> simp <;> omega

/-! ## Capitals -/

/-- The upper case of a letter or digit is a letter or digit. -/
theorem CodePoint.plain_upper {c : CodePoint} (h : c.isAlphanumeric = true) : Plain c.upper := by
  have hlow := CodePoint.code_of_isAlphanumeric h
  have hcapitals : ∀ n < 0x7B, 0x61 ≤ n → (CodePoint.ofCode (n - 32)).isAlphanumeric = true := by
    decide
  intro d hd
  unfold CodePoint.upper at hd
  rw [if_pos hlow, List.mem_singleton] at hd
  subst hd
  split
  next hsmall =>
    simp only [CodePoint.isLower, Bool.and_eq_true, decide_eq_true_eq] at hsmall
    exact hcapitals _ (by omega) hsmall.1
  next => exact h

/-- The lower case of a letter or digit is a letter or digit. -/
theorem CodePoint.plain_lower {c : CodePoint} (h : c.isAlphanumeric = true) : Plain c.lower := by
  have hlow := CodePoint.code_of_isAlphanumeric h
  have hsmall : ∀ n < 0x5B, 0x41 ≤ n → (CodePoint.ofCode (n + 32)).isAlphanumeric = true := by
    decide
  intro d hd
  unfold CodePoint.lower at hd
  rw [if_pos hlow, List.mem_singleton] at hd
  subst hd
  split
  next hcapital =>
    simp only [CodePoint.isUpper, Bool.and_eq_true, decide_eq_true_eq] at hcapital
    exact hsmall _ (by omega) hcapital.1
  next => exact h

namespace Text

/-- Without the capital sigma every code point has its own lower case. -/
theorem lower_eq_flatMap {t : Text} (h : CodePoint.capitalSigma ∉ t) :
    lower t = t.flatMap CodePoint.lower := by
  have hafter : ∀ before, lowerAfter before t = t.flatMap CodePoint.lower := by
    induction t with
    | nil => exact fun _ => rfl
    | cons c rest ih =>
      intro before
      obtain ⟨hc, hrest⟩ := not_or.mp (mt List.mem_cons.mpr h)
      rw [lowerAfter, if_neg (Ne.symm hc), ih hrest, List.flatMap_cons]
  exact hafter []

/-- In upper case a plain text is plain. -/
theorem plain_upper {t : Text} (h : Plain t) : Plain (upper t) := by
  intro d hd
  obtain ⟨c, hc, hd⟩ := List.mem_flatMap.mp hd
  exact CodePoint.plain_upper (h c hc) d hd

/-- A plain text is plain with a capital. -/
theorem plain_capitalize {t : Text} (h : Plain t) : Plain (capitalize t) := by
  cases t with
  | nil => exact h
  | cons c rest =>
    obtain ⟨hc, hrest⟩ := List.forall_mem_cons.mp h
    exact (CodePoint.plain_upper hc).append hrest

/-- A plain text is plain without its capital. -/
theorem plain_uncapitalize {t : Text} (h : Plain t) : Plain (uncapitalize t) := by
  cases t with
  | nil => exact h
  | cons c rest =>
    obtain ⟨hc, hrest⟩ := List.forall_mem_cons.mp h
    exact (CodePoint.plain_lower hc).append hrest

/-! ## Pieces -/

/-- Splitting is that of the standard library. -/
theorem splitWhere_eq_splitOnP (p : CodePoint → Bool) (t : Text) :
    splitWhere p t = t.splitOnP p := by
  induction t with
  | nil => rfl
  | cons c t ih =>
    rw [splitWhere, ih, List.splitOnP_cons_eq_if_modifyHead]
    cases hpieces : t.splitOnP p with
    | nil => exact absurd hpieces (List.splitOnP_ne_nil p t)
    | cons piece pieces => rfl

theorem splitWhere_ne_nil (p : CodePoint → Bool) (t : Text) : splitWhere p t ≠ [] := by
  rw [splitWhere_eq_splitOnP]
  exact List.splitOnP_ne_nil p t

/-- A text without separators is a single piece. -/
theorem splitWhere_of_none {p : CodePoint → Bool} {t : Text} (h : ∀ c ∈ t, p c = false) :
    splitWhere p t = [t] := by
  rw [splitWhere_eq_splitOnP]
  exact List.splitOnP_eq_singleton h

/-- The pieces together are the text without what separates them. -/
theorem flatten_splitWhere (p : CodePoint → Bool) (t : Text) :
    (splitWhere p t).flatten = t.filter (!p ·) := by
  induction t with
  | nil => rfl
  | cons c t ih =>
    unfold splitWhere
    cases hpieces : splitWhere p t with
    | nil => exact absurd hpieces (splitWhere_ne_nil p t)
    | cons piece pieces =>
      rw [hpieces, List.flatten_cons] at ih
      cases hc : p c <;> simp [hc, ← ih]

/-- A piece of a text has its code points from the text, and none that separates pieces. -/
theorem mem_of_mem_splitWhere {p : CodePoint → Bool} {t piece : Text}
    (h : piece ∈ splitWhere p t) : ∀ c ∈ piece, c ∈ t ∧ p c = false := by
  induction t generalizing piece with
  | nil =>
    obtain rfl := List.mem_singleton.mp h
    exact nofun
  | cons d t ih =>
    have hlater : ∀ {piece}, piece ∈ splitWhere p t → ∀ c ∈ piece, c ∈ d :: t ∧ p c = false :=
      fun hpiece c hc => ⟨List.mem_cons_of_mem d (ih hpiece c hc).1, (ih hpiece c hc).2⟩
    unfold splitWhere at h
    split at h
    next hnone => exact absurd hnone (splitWhere_ne_nil p t)
    next first rest hpieces =>
      have hfirst : first ∈ splitWhere p t := hpieces ▸ List.mem_cons_self ..
      have hrest : ∀ {piece}, piece ∈ rest → piece ∈ splitWhere p t :=
        fun hpiece => hpieces ▸ List.mem_cons_of_mem _ hpiece
      split at h
      next =>
        rcases List.mem_cons.mp h with rfl | h
        · exact nofun
        · rcases List.mem_cons.mp h with rfl | h
          · exact hlater hfirst
          · exact hlater (hrest h)
      next hd =>
        rcases List.mem_cons.mp h with rfl | h
        · exact List.forall_mem_cons.mpr
            ⟨⟨List.mem_cons_self .., Bool.not_eq_true _ ▸ hd⟩, hlater hfirst⟩
        · exact hlater (hrest h)

theorem dropFinalLineFeed_subset (t : Text) : dropFinalLineFeed t ⊆ t := by
  unfold dropFinalLineFeed
  cases h : dropEnd? ['\n'] t with
  | none => exact List.Subset.refl t
  | some rest =>
    intro c hc
    rw [dropEnd?_eq_some_iff.mp h]
    exact List.mem_append_left _ hc

end Text

namespace Naming

/-! ## The parts of a name -/

/-- The two parts of a name hold nothing new. -/
theorem splitLastWord_subset (name : Text) :
    (splitLastWord name).1 ⊆ name ∧ (splitLastWord name).2 ⊆ name := by
  have hline := Text.dropFinalLineFeed_subset name
  unfold splitLastWord
  dsimp only
  split
  · exact ⟨nofun, List.Subset.refl name⟩
  · refine ⟨fun c hc => hline ?_, fun c hc => hline ?_⟩
    · exact List.mem_reverse.mp ((List.dropWhile_suffix _).subset (List.mem_reverse.mp hc))
    · exact List.mem_reverse.mp ((List.takeWhile_prefix _).subset (List.mem_reverse.mp hc))

theorem splitLastCapital_subset (word : Text) :
    (splitLastCapital word).1 ⊆ word ∧ (splitLastCapital word).2 ⊆ word := by
  have hwhole : ∀ c ∈ word.reverse.dropWhile (!·.isUpper), c ∈ word :=
    fun c hc => List.mem_reverse.mp ((List.dropWhile_suffix _).subset hc)
  unfold splitLastCapital
  dsimp only
  split
  next capital previous before hrest =>
    rw [hrest] at hwhole
    split
    · refine ⟨fun c hc => ?_, fun c hc => ?_⟩
      · exact hwhole c (List.mem_cons_of_mem _ (List.mem_reverse.mp hc))
      · rcases List.mem_cons.mp hc with rfl | hc
        · exact hwhole _ (List.mem_cons_self ..)
        · exact List.mem_reverse.mp ((List.takeWhile_prefix _).subset (List.mem_reverse.mp hc))
    · exact ⟨nofun, List.Subset.refl word⟩
  next => exact ⟨nofun, List.Subset.refl word⟩

/-- The part of a name that is inflected holds nothing new, and neither does what comes before. -/
theorem splitInflected_subset (name : Text) :
    (splitInflected name).1 ⊆ name ∧ (splitInflected name).2 ⊆ name := by
  obtain ⟨hbefore, hword⟩ := splitLastWord_subset name
  obtain ⟨hinner, hlast⟩ := splitLastCapital_subset (splitLastWord name).2
  exact ⟨List.append_subset.mpr ⟨hbefore, List.Subset.trans hinner hword⟩,
    List.Subset.trans hlast hword⟩

/-! ## The singular -/

/-- Matching the case of another word keeps a word plain. -/
theorem plain_matchCase {word : Text} (h : Plain word) (pattern : Text) :
    Plain (matchCase word pattern) := by
  unfold matchCase
  split
  · exact Text.plain_upper h
  · split
    · split
      · exact Text.plain_capitalize h
      · exact h
    · exact h

theorem plain_irregularSingular? {word singular : Text}
    (h : irregularSingular? word = some singular) : Plain singular := by
  have hlisted : ∀ entry ∈ irregulars, Plain entry.1 := by decide
  unfold irregularSingular? at h
  obtain ⟨entry, hfound, rfl⟩ := Option.map_eq_some_iff.mp h
  exact hlisted entry (List.mem_of_find?_eq_some hfound)

/-- The rules for singulars make names of names. -/
theorem tableName_regularSingular {word : Text} (h : TableName word) :
    TableName (regularSingular word) := by
  have hdrop : ∀ n, TableName (Text.dropLast word n) := fun n => h.of_subset (List.take_subset _ _)
  have hy : TableName "y" := by decide
  unfold regularSingular
  dsimp only
  repeat' split
  · exact (hdrop 3).append hy
  all_goals first | exact hdrop _ | exact h

/-- The singular of a name is a name. -/
theorem tableName_singularize {name : Text} (h : TableName name) :
    TableName (singularize name) := by
  obtain ⟨hbefore, hword⟩ := splitInflected_subset name
  unfold singularize
  dsimp only
  split
  · exact h
  · split
    next singular hsingular =>
      exact (h.of_subset hbefore).append
        (plain_matchCase (plain_irregularSingular? hsingular) _).tableName
    next => exact (h.of_subset hbefore).append (tableName_regularSingular (h.of_subset hword))

/-! ## The plural -/

theorem plain_irregularPlural? {word plural : Text} (h : irregularPlural? word = some plural) :
    Plain plural := by
  have hlisted : ∀ entry ∈ irregulars, Plain entry.2 := by decide
  obtain ⟨before, after, hsplit, _⟩ := List.lookup_eq_some_iff.mp h
  exact hlisted (word, plural) (by rw [hsplit]; simp)

/-- The rules for plurals make a name of a name. -/
theorem tableName_regularPlural {word : Text} (h : TableName word) :
    TableName (regularPlural word) := by
  have hdrop : TableName (Text.dropLast word 1) := h.of_subset (List.take_subset _ _)
  have hies : TableName "ies" := by decide
  have hes : TableName "es" := by decide
  have hs : TableName "s" := by decide
  unfold regularPlural
  dsimp only
  split
  · exact hdrop.append hies
  · split
    · exact h.append hes
    · exact h.append hs

/-- The plural of a name is a name. -/
theorem tableName_pluralize {name : Text} (h : TableName name) : TableName (pluralize name) := by
  obtain ⟨hbefore, hword⟩ := splitInflected_subset name
  unfold pluralize
  dsimp only
  split
  · exact h
  · split
    next plural hplural =>
      exact (h.of_subset hbefore).append
        (plain_matchCase (plain_irregularPlural? hplural) _).tableName
    next => exact (h.of_subset hbefore).append (tableName_regularPlural (h.of_subset hword))

/-! ## Classes -/

/-- In studly case a name is plain. -/
theorem plain_studly {name : Text} (h : TableName name) : Plain (studly name) := by
  intro c hc
  obtain ⟨word, hword, hc⟩ := List.mem_flatten.mp hc
  obtain ⟨piece, hpiece, rfl⟩ := List.mem_map.mp hword
  refine Text.plain_capitalize (fun d hd => ?_) c hc
  obtain ⟨hmem, hjoint⟩ := Text.mem_of_mem_splitWhere (List.mem_filter.mp hpiece).1 d hd
  rcases h d hmem with hplain | rfl
  · exact hplain
  · cases hjoint

/-- In camel case it is. -/
theorem plain_camel {name : Text} (h : TableName name) : Plain (camel name) :=
  Text.plain_uncapitalize (plain_studly h)

/-- The class of a table with a name in ASCII has letters and digits only. -/
theorem plain_classOfTable {table : Text} (h : TableName table) : Plain (classOfTable table) :=
  plain_studly (tableName_singularize h)

end Naming

end Scaffold
