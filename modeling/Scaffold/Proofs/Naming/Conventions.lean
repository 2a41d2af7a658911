import Scaffold.Proofs.Naming.Segments
import Scaffold.Proofs.Naming.Snake

/-!
# Conventions that undo one another

A table is named in snake case and by the plural, its class in studly case and by the singular. On
names whose words are small letters, at least two each, the two ways are inverse to one another.
Both inflect the last word alone, whether an underscore or a capital sets it off
(`singularize_join`, `pluralize_join`, `pluralize_flatMap`), so it is the plural of that word which
has to be undone.

Three parts come together here, each from a module of its own: that words run together come apart
(`Snake`), that only the last word is inflected (`Segments`), and for which words the plural is
undone (`Plural`). The last is a condition on a word, and stays a hypothesis.

Words of one letter are left out because two of them in a row have capitals that stand next to each
other, and no boundary is found between them.
-/

namespace Scaffold.Naming

/-! ## The last word -/

/-- What stands before the last word of a name in snake case. -/
def leadIn (ws : List Text) : Text := ws.flatMap (· ++ [.char '_'])

/-- The last word stands behind the others and an underscore. -/
theorem join_concat (ws : List Text) (w : Text) : Text.join "_" (ws ++ [w]) = leadIn ws ++ w := by
  induction ws with
  | nil => rfl
  | cons v ws ih =>
    have hjoined := Text.join_append "_" (List.cons_ne_nil v [])
      (List.append_ne_nil_of_right_ne_nil ws (List.cons_ne_nil w []))
    rw [List.singleton_append] at hjoined
    rw [List.cons_append, hjoined, ih, leadIn, leadIn, List.flatMap_cons, List.append_assoc _ _ w]
    rfl

/-- Whatever words there are before it, they set the last one off. -/
theorem setsOff_leadIn {ws : List Text} (h : ∀ w ∈ ws, Plain w) : SetsOff (leadIn ws) where
  line := by
    intro hmem
    obtain ⟨w, hw, hmem⟩ := List.mem_flatMap.mp hmem
    rcases List.mem_append.mp hmem with hmem | hmem
    · exact absurd (h w hw _ hmem) (by decide)
    · exact absurd (List.mem_singleton.mp hmem) (by decide)
  last := by
    intro c hc
    rcases List.eq_nil_or_concat ws with rfl | ⟨init, w, rfl⟩
    · cases hc
    · rw [leadIn, List.concat_eq_append, List.flatMap_append, List.flatMap_singleton,
        ← List.append_assoc, List.getLast?_concat] at hc
      obtain rfl := Option.some.inj hc
      rfl

/-- The singular of a name is that of its last word. -/
theorem singularize_join {ws : List Text} {w : Text} (h : ∀ v ∈ ws, Plain v) (hne : w ≠ [])
    (hw : Plain w) :
    singularize (Text.join "_" (ws ++ [w])) = Text.join "_" (ws ++ [singularize w]) := by
  rw [join_concat, join_concat]
  exact singularize_after (setsOff_leadIn h) hne hw

/-- The plural of a name is that of its last word. -/
theorem pluralize_join {ws : List Text} {w : Text} (h : ∀ v ∈ ws, Plain v) (hne : w ≠ [])
    (hw : Plain w) :
    pluralize (Text.join "_" (ws ++ [w])) = Text.join "_" (ws ++ [pluralize w]) := by
  rw [join_concat, join_concat]
  exact pluralize_after (setsOff_leadIn h) hne hw

/-! ## The last capital -/

/-- A word with a capital ends in a small letter. -/
theorem Titled.getLast? {t : Text} (h : Titled t) {c : CodePoint} (hc : t.getLast? = some c) :
    c.isLower = true := by
  cases h with
  | mk _ hsmall => exact hsmall c (List.mem_of_getLast? (by rwa [List.getLast?_cons_cons] at hc))

/-- Words that are run together end in a small letter. -/
theorem flatten_getLast? {ts : List Text} (h : ∀ t ∈ ts, Titled t) {c : CodePoint}
    (hc : ts.flatten.getLast? = some c) : c.isLower = true := by
  rcases List.eq_nil_or_concat ts with rfl | ⟨init, t, rfl⟩
  · cases hc
  · rw [List.concat_eq_append] at h hc
    have ht := h t (List.mem_append_right _ (List.mem_singleton_self t))
    rw [List.flatten_append, List.flatten_singleton,
      List.getLast?_append_of_ne_nil _ ht.ne_nil] at hc
    exact ht.getLast? hc

/-- A word with a capital is split off the words before it. -/
theorem splitLastCapital_titled {ts : List Text} {t : Text} (h : ∀ u ∈ ts, Titled u)
    (ht : Titled t) (hplain : Plain (ts.flatten ++ t)) :
    splitLastCapital (ts.flatten ++ t) = (ts.flatten, t) := by
  cases ht with
  | @mk capital small rest hcapital hsmall =>
    have htail : ∀ c ∈ (small :: rest).reverse, (!c.isUpper) = true := by
      intro c hc
      rw [(CodePoint.small_letter (hsmall c (List.mem_reverse.mp hc))).2.1]
      rfl
    have hreverse : (ts.flatten ++ capital :: small :: rest).reverse =
        (small :: rest).reverse ++ capital :: ts.flatten.reverse := by simp
    have htake : (ts.flatten ++ capital :: small :: rest).reverse.takeWhile (!·.isUpper) =
        (small :: rest).reverse := by
      rw [hreverse, List.takeWhile_append_of_pos htail,
        List.takeWhile_cons_of_neg (by simp [hcapital]), List.append_nil]
    have hdrop : (ts.flatten ++ capital :: small :: rest).reverse.dropWhile (!·.isUpper) =
        capital :: ts.flatten.reverse := by
      rw [hreverse, List.dropWhile_append_of_pos htail,
        List.dropWhile_cons_of_neg (by simp [hcapital])]
    unfold splitLastCapital
    simp only [htake, hdrop]
    cases hbefore : ts.flatten.reverse with
    | nil =>
      rw [List.reverse_eq_nil_iff.mp hbefore]
      rfl
    | cons previous before =>
      have hlast : previous.isLower = true :=
        flatten_getLast? h (by rw [← List.head?_reverse, hbefore]; rfl)
      have hall : (ts.flatten ++ capital :: small :: rest).all (·.isAlphanumeric) = true :=
        List.all_eq_true.mpr hplain
      simp [hlast, hall, ← hbefore]

/-- A word with a capital is what is inflected, whatever words stand before it. -/
theorem splits_titled {ts : List Text} {t : Text} (h : ∀ u ∈ ts, Titled u) (ht : Titled t) :
    Splits (ts.flatten ++ t) ts.flatten t := by
  have hplain : Plain (ts.flatten ++ t) := by
    refine Plain.append (fun c hc => ?_) ht.plain
    obtain ⟨u, hu, hc⟩ := List.mem_flatten.mp hc
    exact (h u hu).plain c hc
  have hne : ts.flatten ++ t ≠ [] := List.append_ne_nil_of_right_ne_nil _ ht.ne_nil
  have halone := splits_plain hne hplain
  rwa [splitLastCapital_titled h ht hplain] at halone

/-- What is added at the end leaves the capital at the start. -/
theorem capitalize_append {w : Text} (hne : w ≠ []) (tail : Text) :
    Text.capitalize (w ++ tail) = Text.capitalize w ++ tail := by
  cases w with
  | nil => exact absurd rfl hne
  | cons c rest => exact (List.append_assoc c.upper rest tail).symm

theorem Long.ne_nil {w : Text} (h : Long w) : w ≠ [] := by
  rintro rfl
  exact absurd h.2 (by decide)

/-- The last letter of two or more is not the one that gets the capital. -/
theorem Long.dropLast_capitalize {w : Text} (h : Long w) :
    Text.dropLast (Text.capitalize w) 1 = Text.capitalize (Text.dropLast w 1) ∧
      Text.dropLast w 1 ≠ [] := by
  match w, h with
  | c :: d :: rest, h =>
    obtain ⟨capital, hupper, _⟩ := upper_letter (h.1 c (List.mem_cons_self ..))
    simp [Text.dropLast, Text.capitalize, hupper]

/-- In lower case the capital is gone. -/
theorem lower_capitalize {w : Text} (h : Long w) : Text.lower (Text.capitalize w) = w := by
  have hsigma : CodePoint.capitalSigma ∉ Text.capitalize w :=
    fun hmem => absurd (h.titled.plain _ hmem) (by decide)
  rw [Text.lower_eq_flatMap hsigma, h.lower_capitalize]

/-- A capital at the start asks for one. -/
theorem matchCase_titled {t : Text} (h : Titled t) (word : Text) :
    matchCase word t = Text.capitalize word := by
  cases h with
  | @mk capital small rest hcapital hsmall =>
    have hlow : (capital :: small :: rest).any (·.isLower) = true :=
      List.any_eq_true.mpr ⟨small, by simp, hsmall small (List.mem_cons_self ..)⟩
    unfold matchCase
    rw [hlow, Bool.not_true, Bool.and_false, if_neg Bool.false_ne_true]
    exact if_pos hcapital

/-- The rules for plurals look past the capital, and keep it. -/
theorem regularPlural_capitalize {w : Text} (h : Long w) :
    regularPlural (Text.capitalize w) = Text.capitalize (regularPlural w) := by
  obtain ⟨hdrop, hne⟩ := h.dropLast_capitalize
  unfold regularPlural
  simp only [lower_capitalize h, Text.lower_of_small h.1]
  split
  next => rw [hdrop, capitalize_append hne]
  next =>
    split
    next => exact (capitalize_append h.ne_nil _).symm
    next => exact (capitalize_append h.ne_nil _).symm

/-- The plural of a capitalized word is its plural with a capital. -/
theorem pluralOf_capitalize {w : Text} (h : Long w) :
    pluralOf (Text.capitalize w) = Text.capitalize (pluralize w) := by
  unfold pluralOf
  simp only [lower_capitalize h, matchCase_titled h.titled, regularPlural_capitalize h]
  rw [pluralize_small h.1 h.ne_nil]
  by_cases hcountable : w ∈ uncountables
  · simp [hcountable]
  · cases irregularPlural? w <;> simp [hcountable, h.ne_nil]

/-- A plural is as good a word. -/
theorem long_pluralize {w : Text} (h : Long w) : Long (pluralize w) := by
  refine ⟨small_pluralize h.1 h.ne_nil, ?_⟩
  rw [pluralize_small h.1 h.ne_nil]
  split
  next => exact h.2
  next =>
    cases hirregular : irregularPlural? w with
    | some plural =>
      have hlisted : ∀ e ∈ irregulars, 2 ≤ e.2.length := by decide
      exact hlisted _ (irregularPlural?_eq_some hirregular)
    | none =>
      have hlonger : ∀ tail : Text, 2 ≤ (w ++ tail).length := by
        intro tail
        rw [List.length_append]
        exact Nat.le_add_right_of_le h.2
      rw [Option.getD_none, regularPlural_small h.1]
      split
      next =>
        rw [List.length_append, (by decide : (Text.ofString "ies").length = 3)]
        omega
      next => split <;> exact hlonger _

/-- The plural of words that are run together is that of the last. -/
theorem pluralize_flatMap {ws : List Text} {w : Text} (h : ∀ v ∈ ws ++ [w], Long v) :
    pluralize ((ws ++ [w]).flatMap Text.capitalize) =
      (ws ++ [pluralize w]).flatMap Text.capitalize := by
  have htitled : ∀ t ∈ ws.map Text.capitalize, Titled t :=
    List.forall_mem_map.mpr fun v hv => (h v (List.mem_append_left _ hv)).titled
  have hw := h w (List.mem_append_right _ (List.mem_singleton_self w))
  rw [List.flatMap_append, List.flatMap_append, List.flatMap_singleton, List.flatMap_singleton,
    List.flatMap_def, pluralize_split (splits_titled htitled hw.titled), pluralOf_capitalize hw]

/-! ## Tables and classes -/

theorem Long.isWord {w : Text} (h : Long w) : IsWord w :=
  ⟨h.ne_nil, fun c hc => Or.inl (h.1 c hc)⟩

/-- In studly case joined words stand one after another, each with a capital. -/
theorem studly_join {ws : List Text} (hne : ws ≠ []) (h : ∀ w ∈ ws, Long w) :
    studly (Text.join "_" ws) = ws.flatMap Text.capitalize :=
  studly_eq (wordsOf_join hne fun w hw => (h w hw).isWord)

section

variable {ws : List Text} {w : Text} (h : ∀ v ∈ ws ++ [w], Long v)
  (hback : singularize (pluralize w) = w)

include h

/-- With the last in the plural, all are words still. -/
theorem forall_long_pluralize : ∀ v ∈ ws ++ [pluralize w], Long v := by
  rw [List.forall_mem_append] at h ⊢
  exact ⟨h.1, List.forall_mem_singleton.mpr (long_pluralize (h.2 w (List.mem_singleton_self w)))⟩

/-- The plural of a name in snake case is that of its last word. -/
theorem pluralize_snake :
    pluralize (Text.join "_" (ws ++ [w])) = Text.join "_" (ws ++ [pluralize w]) := by
  rw [List.forall_mem_append] at h
  have hw := h.2 w (List.mem_singleton_self w)
  exact pluralize_join (fun v hv => (h.1 v hv).plain) hw.ne_nil hw.plain

/-- The conventional table of a class is the plural of the name in snake case. -/
theorem tableOfClass_studly :
    tableOfClass (studly (Text.join "_" (ws ++ [w]))) = pluralize (Text.join "_" (ws ++ [w])) := by
  rw [tableOfClass, studly_join (by simp) h, pluralize_flatMap h,
    snake_capitalized (forall_long_pluralize h), pluralize_snake h]

include hback

/-- A name comes back from its plural if its last word does. -/
theorem singularize_pluralize_snake :
    singularize (pluralize (Text.join "_" (ws ++ [w]))) = Text.join "_" (ws ++ [w]) := by
  have hplural := forall_long_pluralize h
  rw [List.forall_mem_append] at hplural
  have hw := hplural.2 _ (List.mem_singleton_self _)
  rw [pluralize_snake h, singularize_join (fun v hv => (hplural.1 v hv).plain) hw.ne_nil hw.plain,
    hback]

/-- The class of the plural is the name in studly case. -/
theorem classOfTable_pluralize :
    classOfTable (pluralize (Text.join "_" (ws ++ [w]))) = studly (Text.join "_" (ws ++ [w])) := by
  rw [classOfTable, singularize_pluralize_snake h hback]

/-- The route parameter of the plural is the name itself. -/
theorem routeParameter_pluralize :
    routeParameter (pluralize (Text.join "_" (ws ++ [w]))) = Text.join "_" (ws ++ [w]) := by
  rw [routeParameter, singularize_pluralize_snake h hback, snake_join h]

end

end Scaffold.Naming
