import Scaffold.Proofs.Naming.Camel

/-!
# Back to snake case

Words of small letters, at least two each, that are run together with capitals come apart again in
snake case (`snake_capitalized`), and joined by underscores they stay as they are (`snake_join`).

Two passes put an underscore before each word. The first breaks before a capital and its small
letters, but what it has passed over cannot precede another break; so it breaks before every second
word (`paired`, `breakBeforeWords_flatten`), and the second pass finds the boundaries that are left
(`breakBeforeCapitals_paired`).
-/

namespace Scaffold.Naming

/-- A capital and small letters, at least one. -/
inductive Titled : Text → Prop
  | mk {capital small : CodePoint} {rest : Text} (hcapital : capital.isUpper = true)
    (hsmall : Small (small :: rest)) : Titled (capital :: small :: rest)

/-- Small letters, at least two. -/
def Long (w : Text) : Prop := Small w ∧ 2 ≤ w.length

instance (w : Text) : Decidable (Long w) := inferInstanceAs (Decidable (_ ∧ _))

/-- The words with an underscore before every second one. -/
def paired : List Text → Text
  | [] => []
  | [t] => t
  | t :: u :: ts => t ++ .char '_' :: u ++ paired ts

/-! ## Capitals -/

theorem isLower_of_isUpper {c : CodePoint} (h : c.isUpper = true) : c.isLower = false := by
  simp only [CodePoint.isLower, CodePoint.isUpper, Bool.and_eq_true, Bool.and_eq_false_iff,
    decide_eq_true_eq, decide_eq_false_iff_not] at h ⊢
  omega

theorem isDigit_of_isUpper {c : CodePoint} (h : c.isUpper = true) : c.isDigit = false := by
  simp only [CodePoint.isDigit, CodePoint.isUpper, Bool.and_eq_true, Bool.and_eq_false_iff,
    decide_eq_true_eq, decide_eq_false_iff_not] at h ⊢
  omega

theorem Titled.ne_nil {t : Text} (h : Titled t) : t ≠ [] := by
  cases h
  exact List.cons_ne_nil _ _

theorem Titled.plain {t : Text} (h : Titled t) : Plain t := by
  cases h with
  | mk hcapital hsmall =>
    refine List.forall_mem_cons.mpr ⟨?_, hsmall.plain⟩
    unfold CodePoint.isAlphanumeric
    simp [hcapital]

/-- A word of two letters or more with a capital is titled. -/
theorem Long.titled {w : Text} (h : Long w) : Titled (Text.capitalize w) := by
  obtain ⟨hsmall, hlong⟩ := h
  match w, hlong with
  | c :: d :: rest, _ =>
    obtain ⟨hc, hrest⟩ := List.forall_mem_cons.mp hsmall
    obtain ⟨capital, hupper, hcapital, _⟩ := upper_letter hc
    rw [Text.capitalize, hupper]
    exact .mk hcapital hrest

/-! ## The first pass -/

section

variable {t u rest : Text}

/-- The first pass goes on where no capital follows. -/
theorem breakBeforeWords_pass {inWord : Bool} {c d : CodePoint}
    (hc : (inWord && c.isLower) = false) (hd : d.isUpper = false) (rest : Text) :
    breakBeforeWords inWord (c :: d :: rest) = c :: breakBeforeWords false (d :: rest) := by
  rw [breakBeforeWords.eq_def]
  dsimp only
  rw [hc, if_neg Bool.false_ne_true]
  cases rest with
  | nil => simp [breakBeforeWords]
  | cons e rest => simp [hd]

/-- The small letters of a word that was broken before are passed over. -/
theorem breakBeforeWords_inside {smalls : Text} (h : Small smalls) (rest : Text) :
    breakBeforeWords true (smalls ++ rest) = smalls ++ breakBeforeWords true rest := by
  induction smalls with
  | nil => rfl
  | cons c smalls ih =>
    obtain ⟨hc, hsmalls⟩ := List.forall_mem_cons.mp h
    rw [List.cons_append, breakBeforeWords.eq_def]
    dsimp only
    rw [hc, if_pos (by rfl), ih hsmalls, List.cons_append]

/-- Words are broken where a capital and a small letter follow, and the word after that is passed
over. -/
theorem breakBeforeWords_break {c capital small : CodePoint} (hc : c.isLower = true)
    (hcapital : capital.isUpper = true) (hsmall : small.isLower = true) (rest : Text) :
    breakBeforeWords false (c :: capital :: small :: rest) =
      c :: .char '_' :: capital :: breakBeforeWords true (small :: rest) := by
  have hfeed : c ≠ .char '\n' := by
    rintro rfl
    cases hc
  rw [breakBeforeWords.eq_def]
  simp [hfeed, hcapital, hsmall]

/-- Small letters end where the next word begins, and there the text is broken. -/
theorem breakBeforeWords_smalls {smalls : Text} (hne : smalls ≠ []) (h : Small smalls)
    (ht : Titled t) (rest : Text) :
    breakBeforeWords false (smalls ++ (t ++ rest)) =
      smalls ++ .char '_' :: t ++ breakBeforeWords true rest := by
  induction smalls with
  | nil => exact absurd rfl hne
  | cons c smalls ih =>
    obtain ⟨hc, hsmalls⟩ := List.forall_mem_cons.mp h
    cases smalls with
    | nil =>
      cases ht with
      | mk hcapital hsmall =>
        have hinside := breakBeforeWords_inside hsmall rest
        rw [List.cons_append] at hinside
        simp [breakBeforeWords_break hc hcapital (hsmall _ (List.mem_cons_self ..)), hinside]
    | cons d smalls =>
      have hd := (CodePoint.small_letter (hsmalls d (List.mem_cons_self ..))).2.1
      have hlater := ih (List.cons_ne_nil _ _) hsmalls
      simp only [List.cons_append] at hlater ⊢
      rw [breakBeforeWords_pass (by rw [Bool.false_and]) hd, hlater]

/-- Of two words the second is broken before and passed over. -/
theorem breakBeforeWords_pair (inWord : Bool) (ht : Titled t) (hu : Titled u) (rest : Text) :
    breakBeforeWords inWord (t ++ (u ++ rest)) =
      t ++ .char '_' :: u ++ breakBeforeWords true rest := by
  cases ht with
  | @mk capital small more hcapital hsmall =>
    have hc : (inWord && capital.isLower) = false := by
      rw [isLower_of_isUpper hcapital, Bool.and_false]
    have hd := (CodePoint.small_letter (hsmall small (List.mem_cons_self ..))).2.1
    have hlater := breakBeforeWords_smalls (List.cons_ne_nil _ _) hsmall hu rest
    simp only [List.cons_append] at hlater ⊢
    rw [breakBeforeWords_pass hc hd, hlater]

/-- A single word has nothing before it to break after. -/
theorem breakBeforeWords_titled (inWord : Bool) (ht : Titled t) : breakBeforeWords inWord t = t := by
  have hsmalls : ∀ {c : CodePoint} {smalls : Text}, Small (c :: smalls) →
      breakBeforeWords false (c :: smalls) = c :: smalls := by
    intro c smalls
    induction smalls generalizing c with
    | nil => exact fun _ => by simp [breakBeforeWords]
    | cons d smalls ih =>
      intro h
      obtain ⟨_, hlater⟩ := List.forall_mem_cons.mp h
      have hd := (CodePoint.small_letter (hlater d (List.mem_cons_self ..))).2.1
      rw [breakBeforeWords_pass (by rw [Bool.false_and]) hd, ih hlater]
  cases ht with
  | @mk capital small more hcapital hsmall =>
    have hc : (inWord && capital.isLower) = false := by
      rw [isLower_of_isUpper hcapital, Bool.and_false]
    have hd := (CodePoint.small_letter (hsmall small (List.mem_cons_self ..))).2.1
    rw [breakBeforeWords_pass hc hd, hsmalls hsmall]

end

/-- The first pass breaks before every second word. -/
theorem breakBeforeWords_flatten {ts : List Text} (h : ∀ t ∈ ts, Titled t) (inWord : Bool) :
    breakBeforeWords inWord ts.flatten = paired ts := by
  induction ts using paired.induct generalizing inWord with
  | case1 => rfl
  | case2 t =>
    have ht := h t (List.mem_singleton_self t)
    rw [List.flatten_singleton, breakBeforeWords_titled inWord ht]
    rfl
  | case3 t u ts ih =>
    obtain ⟨ht, hlater⟩ := List.forall_mem_cons.mp h
    obtain ⟨hu, hts⟩ := List.forall_mem_cons.mp hlater
    rw [List.flatten_cons, List.flatten_cons, breakBeforeWords_pair inWord ht hu, ih hts]
    rfl

/-! ## The second pass -/

/-- The second pass goes on where no small letter meets a capital. -/
theorem breakBeforeCapitals_pass {c d : CodePoint}
    (h : ((c.isLower || c.isDigit) && d.isUpper) = false) (rest : Text) :
    breakBeforeCapitals (c :: d :: rest) = c :: breakBeforeCapitals (d :: rest) := by
  rw [breakBeforeCapitals.eq_def]
  dsimp only
  rw [h, if_neg Bool.false_ne_true]

/-- A text is not broken where no capital comes next. -/
theorem breakBeforeCapitals_of_none {c : CodePoint} {rest : Text}
    (h : ∀ d ∈ rest, d.isUpper = false) : breakBeforeCapitals (c :: rest) = c :: rest := by
  induction rest generalizing c with
  | nil => rfl
  | cons d rest ih =>
    obtain ⟨hd, hlater⟩ := List.forall_mem_cons.mp h
    rw [breakBeforeCapitals_pass (by rw [hd, Bool.and_false]), ih hlater]

/-- A single word is not broken before a capital. -/
theorem breakBeforeCapitals_alone {t : Text} (ht : Titled t) : breakBeforeCapitals t = t := by
  cases ht with
  | mk _ hsmall =>
    exact breakBeforeCapitals_of_none fun d hd => (CodePoint.small_letter (hsmall d hd)).2.1

/-- A word is broken after exactly if a capital comes next. -/
theorem breakBeforeCapitals_titled {t : Text} (ht : Titled t) (d : CodePoint) (rest : Text) :
    breakBeforeCapitals (t ++ d :: rest) =
      t ++ ((if d.isUpper then [.char '_'] else []) ++ breakBeforeCapitals (d :: rest)) := by
  -- Among small letters there is nothing to break; the only place is before `d`.
  have hsmalls : ∀ {c : CodePoint} {smalls : Text}, Small (c :: smalls) →
      breakBeforeCapitals (c :: smalls ++ d :: rest) = c :: smalls ++
        ((if d.isUpper then [.char '_'] else []) ++ breakBeforeCapitals (d :: rest)) := by
    intro c smalls
    induction smalls generalizing c with
    | nil =>
      intro h
      have hc := h c (List.mem_singleton_self c)
      by_cases hd : d.isUpper = true <;> simp [breakBeforeCapitals.eq_def (c :: d :: rest), hc, hd]
    | cons e smalls ih =>
      intro h
      obtain ⟨_, hlater⟩ := List.forall_mem_cons.mp h
      have he := (CodePoint.small_letter (hlater e (List.mem_cons_self ..))).2.1
      have hrest := ih hlater
      simp only [List.cons_append] at hrest ⊢
      rw [breakBeforeCapitals_pass (by rw [he, Bool.and_false]), hrest]
  cases ht with
  | @mk capital small more hcapital hsmall =>
    have hc : (capital.isLower || capital.isDigit) = false := by
      rw [isLower_of_isUpper hcapital, isDigit_of_isUpper hcapital]
      rfl
    have hrest := hsmalls hsmall
    simp only [List.cons_append] at hrest ⊢
    rw [breakBeforeCapitals_pass (by rw [hc, Bool.false_and]), hrest]

/-- Nothing is broken behind an underscore. -/
theorem breakBeforeCapitals_underscore {t : Text} (ht : Titled t) (rest : Text) :
    breakBeforeCapitals (.char '_' :: (t ++ rest)) =
      .char '_' :: breakBeforeCapitals (t ++ rest) := by
  cases ht with
  | mk => exact breakBeforeCapitals_pass rfl _

/-- Words begin with a capital, in pairs too. -/
theorem paired_capital {t : Text} (ht : Titled t) (ts : List Text) :
    ∃ capital rest, paired (t :: ts) = capital :: rest ∧ capital.isUpper = true := by
  cases ht with
  | mk hcapital =>
    cases ts with
    | nil => exact ⟨_, _, rfl, hcapital⟩
    | cons u ts => exact ⟨_, _, rfl, hcapital⟩

/-- The second pass breaks before the words that are left. -/
theorem breakBeforeCapitals_paired {ts : List Text} (h : ∀ t ∈ ts, Titled t) :
    breakBeforeCapitals (paired ts) = Text.join "_" ts := by
  induction ts using paired.induct with
  | case1 => rfl
  | case2 t => exact breakBeforeCapitals_alone (h t (List.mem_singleton_self t))
  | case3 t u ts ih =>
    obtain ⟨ht, hlater⟩ := List.forall_mem_cons.mp h
    obtain ⟨hu, hts⟩ := List.forall_mem_cons.mp hlater
    have hsecond : breakBeforeCapitals (u ++ paired ts) = Text.join "_" (u :: ts) := by
      cases ts with
      | nil => rw [paired, List.append_nil]; exact breakBeforeCapitals_alone hu
      | cons v vs =>
        obtain ⟨capital, rest, hpaired, hcapital⟩ :=
          paired_capital (hts v (List.mem_cons_self ..)) vs
        rw [hpaired, breakBeforeCapitals_titled hu, ← hpaired, ih hts, if_pos hcapital]
        exact (List.append_assoc u [CodePoint.char '_'] _).symm
    have hfirst : paired (t :: u :: ts) = t ++ .char '_' :: (u ++ paired ts) := by
      simp [paired]
    rw [hfirst, breakBeforeCapitals_titled ht, breakBeforeCapitals_underscore hu, hsecond]
    exact (List.append_assoc t [CodePoint.char '_'] _).symm

/-! ## Snake case -/

/-- Without hyphens and blanks there is nothing to join. -/
theorem joinRuns_of_none {t : Text} (h : ∀ c ∈ t, c ≠ .char '-' ∧ c.isBlank = false) :
    joinRuns false t = t := by
  induction t with
  | nil => rfl
  | cons c t ih =>
    obtain ⟨⟨hhyphen, hblank⟩, ht⟩ := List.forall_mem_cons.mp h
    rw [joinRuns, if_neg (by simp [hhyphen, hblank]), ih ht]

/-- Of a name in ASCII only the breaks and the lower case are left to do. -/
theorem snake_tableName {t u : Text} (hbreaks : breakBeforeCapitals (breakBeforeWords false t) = u)
    (h : TableName u) : snake t = u.flatMap CodePoint.lower := by
  have hother : ∀ c ∈ u, c ≠ CodePoint.capitalSigma ∧ c ≠ .char '-' ∧ c.isBlank = false := by
    intro c hc
    rcases h c hc with hletter | rfl
    · refine ⟨?_, ?_, CodePoint.isBlank_of_isAlphanumeric hletter⟩ <;>
        rintro rfl <;> exact absurd hletter (by decide)
    · decide
  unfold snake
  rw [hbreaks, joinRuns_of_none fun c hc => (hother c hc).2]
  exact Text.lower_eq_flatMap fun hmem => (hother _ hmem).1 rfl

/-- Plain words that are joined by underscores make a name. -/
theorem tableName_join {ts : List Text} (h : ∀ t ∈ ts, Plain t) : TableName (Text.join "_" ts) := by
  intro c hc
  rcases Text.mem_of_mem_join hc with hc | ⟨t, ht, hc⟩
  · exact Or.inr (List.mem_singleton.mp hc)
  · exact Or.inl (h t ht c hc)

theorem Long.plain {w : Text} (h : Long w) : Plain w := h.1.plain

theorem Long.lower {w : Text} (h : Long w) : w.flatMap CodePoint.lower = w :=
  Text.flatMap_lower_of_small h.1

/-- In lower case the capital is gone. -/
theorem Long.lower_capitalize {w : Text} (h : Long w) :
    (Text.capitalize w).flatMap CodePoint.lower = w := by
  match w, h with
  | c :: rest, h =>
    obtain ⟨hc, hrest⟩ := List.forall_mem_cons.mp h.1
    obtain ⟨capital, hupper, _, hlower⟩ := upper_letter hc
    rw [Text.capitalize, hupper, List.singleton_append, List.flatMap_cons, hlower,
      Text.flatMap_lower_of_small hrest]
    rfl

/-- Words run together with capitals come apart in snake case. -/
theorem snake_capitalized {ws : List Text} (h : ∀ w ∈ ws, Long w) :
    snake (ws.flatMap Text.capitalize) = Text.join "_" ws := by
  have htitled : ∀ t ∈ ws.map Text.capitalize, Titled t :=
    List.forall_mem_map.mpr fun w hw => (h w hw).titled
  have hlower : (ws.map Text.capitalize).map (List.flatMap CodePoint.lower) = ws := by
    rw [List.map_map]
    exact (List.map_congr_left fun w hw => (h w hw).lower_capitalize).trans (List.map_id ws)
  rw [List.flatMap_def, snake_tableName (u := Text.join "_" (ws.map Text.capitalize)) ?_
    (tableName_join fun t ht => (htitled t ht).plain), Text.flatMap_join, hlower]
  · rfl
  · rw [breakBeforeWords_flatten htitled, breakBeforeCapitals_paired htitled]

/-- A text without capitals is left alone. -/
theorem breakBeforeWords_of_none {t : Text} (h : ∀ c ∈ t, c.isUpper = false) (inWord : Bool) :
    breakBeforeWords inWord t = t := by
  induction t generalizing inWord with
  | nil => rfl
  | cons c t ih =>
    obtain ⟨_, ht⟩ := List.forall_mem_cons.mp h
    by_cases hc : (inWord && c.isLower) = true
    · rw [breakBeforeWords.eq_def]
      dsimp only
      rw [if_pos hc, ih ht]
    · cases t with
      | nil => simp [breakBeforeWords]
      | cons d t =>
        rw [breakBeforeWords_pass (Bool.not_eq_true _ ▸ hc) (ht d (List.mem_cons_self ..)), ih ht]

/-- A name in snake case stays as it is. -/
theorem snake_join {ws : List Text} (h : ∀ w ∈ ws, Long w) :
    snake (Text.join "_" ws) = Text.join "_" ws := by
  have hlow : ∀ c ∈ Text.join "_" ws, c.isUpper = false := by
    intro c hc
    rcases Text.mem_of_mem_join hc with hc | ⟨w, hw, hc⟩
    · rw [List.mem_singleton.mp hc]
      rfl
    · exact (CodePoint.small_letter ((h w hw).1 c hc)).2.1
  have hlower : ws.map (List.flatMap CodePoint.lower) = ws :=
    (List.map_congr_left fun w hw => (h w hw).lower).trans (List.map_id ws)
  have hbreaks : breakBeforeCapitals (breakBeforeWords false (Text.join "_" ws)) =
      Text.join "_" ws := by
    rw [breakBeforeWords_of_none hlow]
    cases hname : Text.join "_" ws with
    | nil => rfl
    | cons c rest =>
      rw [hname] at hlow
      exact breakBeforeCapitals_of_none (List.forall_mem_cons.mp hlow).2
  rw [snake_tableName hbreaks (tableName_join fun w hw => (h w hw).plain), Text.flatMap_join, hlower]
  rfl

end Scaffold.Naming
