import Scaffold.Text.Basic

/-!
# What searching, trimming and replacing do

`Scaffold.Text.Basic` defines the text functions by recursion; here they are described by how a
text splits into parts. A text begins with another, or contains it, exactly when it is the other
with something around it (`startsWith_iff`, `contains_iff`). Trimming takes blanks off both ends
and stops at the first code point that is none, so it passes over whatever stands between two
such code points (`trim_around`).

The main statement is about replacement. An occurrence of `old` cannot reach over a code point
that `old` does not hold, so a replacement works on the two sides of such a barrier separately
(`replace_barrier`): what stands between two barriers survives unless an occurrence begins there.
-/

namespace Scaffold.Text

/-! ## Beginnings and occurrences -/

@[simp] theorem dropStart?_append (start rest : Text) :
    dropStart? start (start ++ rest) = some rest := by
  induction start with
  | nil => cases rest <;> rfl
  | cons s start ih => rw [List.cons_append, dropStart?, if_pos rfl, ih]

/-- A text begins with another exactly if the other is a prefix of it. -/
theorem startsWith_iff {t start : Text} : startsWith t start = true ↔ start <+: t := by
  rw [startsWith, Option.isSome_iff_exists]
  constructor
  · intro hparts
    obtain ⟨rest, h⟩ := hparts
    exact ⟨rest, (eq_append_of_dropStart? h).symm⟩
  · intro hparts
    obtain ⟨rest, rfl⟩ := hparts
    exact ⟨rest, dropStart?_append start rest⟩

/-- A beginning can be taken off no text that does not begin with it. -/
theorem dropStart?_eq_none_iff {start t : Text} : dropStart? start t = none ↔ ¬ start <+: t := by
  rw [← startsWith_iff, startsWith, Option.not_isSome_iff_eq_none]

/-- An occurrence at the start is the first one. -/
theorem cutAt_append_self (needle rest : Text) :
    cutAt needle (needle ++ rest) = some ([], rest) := by
  cases h : needle ++ rest with
  | nil =>
    obtain ⟨rfl, rfl⟩ := List.append_eq_nil_iff.mp h
    rfl
  | cons c t => rw [cutAt, ← h, dropStart?_append]

/-- An occurrence anywhere is found, though perhaps an earlier one first. -/
theorem cutAt_isSome_of_append (needle before after : Text) :
    (cutAt needle (before ++ needle ++ after)).isSome = true := by
  induction before with
  | nil => rw [List.nil_append, cutAt_append_self]; rfl
  | cons c before ih =>
    rw [List.cons_append, List.cons_append, cutAt]
    split
    next => rfl
    next => rw [Option.isSome_map, ih]

/-- A text is cut at the first of its code points that is the one looked for. -/
theorem cutAt_point_iff {c : CodePoint} {t before after : Text} :
    cutAt [c] t = some (before, after) ↔ c ∉ before ∧ t = before ++ c :: after := by
  induction t generalizing before with
  | nil =>
    constructor
    · intro h
      cases h
    · intro hparts
      exact absurd hparts.2.symm
        (List.append_ne_nil_of_right_ne_nil before (List.cons_ne_nil c after))
  | cons d t ih =>
    by_cases hcd : c = d
    · subst hcd
      have hcut : cutAt [c] (c :: t) = some ([], t) := by
        simp [cutAt, dropStart?]
      rw [hcut]
      constructor
      · intro h
        cases h
        exact ⟨List.not_mem_nil, rfl⟩
      · intro hparts
        obtain ⟨hbefore, h⟩ := hparts
        cases before with
        | nil => simp_all
        | cons b before =>
          obtain ⟨rfl, _⟩ := List.cons.inj h
          exact absurd (List.mem_cons_self ..) hbefore
    · -- Nothing is cut at `d`, so it stands before the cut on either side.
      have hcut : cutAt [c] (d :: t) =
          (cutAt [c] t).map fun parts => (d :: parts.1, parts.2) := by
        simp [cutAt, dropStart?, hcd]
      rw [hcut, Option.map_eq_some_iff]
      constructor
      · intro hparts
        obtain ⟨⟨before', after'⟩, h, heq⟩ := hparts
        obtain ⟨rfl, rfl⟩ := Prod.mk.inj heq
        obtain ⟨hbefore, rfl⟩ := ih.mp h
        exact ⟨List.not_mem_cons_of_ne_of_not_mem hcd hbefore, rfl⟩
      · intro hparts
        obtain ⟨hbefore, h⟩ := hparts
        cases before with
        | nil => exact absurd (List.cons.inj h).1.symm hcd
        | cons b before =>
          obtain ⟨rfl, ht⟩ := List.cons.inj h
          exact ⟨(before, after), ih.mpr ⟨List.not_mem_of_not_mem_cons hbefore, ht⟩, rfl⟩

/-- A text is cut around another where nothing before it holds one of the code points of the
other. -/
theorem cutAt_append {needle before : Text} {c : CodePoint} (hc : c ∈ needle) (h : c ∉ before)
    (after : Text) : cutAt needle (before ++ (needle ++ after)) = some (before, after) := by
  obtain ⟨first, last, rfl, hfirst⟩ := List.eq_append_cons_of_mem hc
  induction before with
  | nil => exact cutAt_append_self _ after
  | cons b before ih =>
    have hbefore : c ∉ before := fun hmem => h (List.mem_cons_of_mem b hmem)
    have hnone : dropStart? (first ++ c :: last)
        (b :: (before ++ (first ++ c :: last ++ after))) = none := by
      rw [dropStart?_eq_none_iff]
      rintro ⟨rest, hrest⟩
      -- The first of that code point would stand at two places.
      have hearly : cutAt [c] (first ++ c :: (last ++ rest)) = some (first, last ++ rest) :=
        cutAt_point_iff.mpr ⟨hfirst, rfl⟩
      have hlate : cutAt [c] (b :: before ++ first ++ c :: (last ++ after)) =
          some (b :: before ++ first, last ++ after) := by
        refine cutAt_point_iff.mpr ⟨?_, rfl⟩
        rw [List.mem_append, not_or]
        exact ⟨h, hfirst⟩
      have hsame : first ++ c :: (last ++ rest) =
          b :: before ++ first ++ c :: (last ++ after) := by simpa using hrest
      rw [hsame, hlate] at hearly
      have hlength := congrArg List.length (Prod.mk.inj (Option.some.inj hearly)).1
      simp only [List.length_append, List.length_cons] at hlength
      omega
    rw [List.cons_append, cutAt, hnone, ih hbefore]
    rfl

/-- A text contains another exactly if the other is an infix of it. -/
theorem contains_iff {t needle : Text} : contains t needle = true ↔ needle <:+: t := by
  rw [contains]
  constructor
  · intro h
    obtain ⟨⟨before, after⟩, h⟩ := Option.isSome_iff_exists.mp h
    exact ⟨before, after, (eq_of_cutAt h).symm⟩
  · intro hparts
    obtain ⟨before, after, rfl⟩ := hparts
    exact cutAt_isSome_of_append needle before after

/-- What precedes the first occurrence does not contain another. -/
theorem not_infix_of_cutAt {needle t before after : Text} (hne : needle ≠ [])
    (h : cutAt needle t = some (before, after)) : ¬ needle <:+: before := by
  induction t generalizing before with
  | nil =>
    simp only [cutAt, Option.map_eq_some_iff, Prod.mk.injEq] at h
    obtain ⟨rest, _, rfl, _⟩ := h
    exact fun hinfix => hne (List.infix_nil.mp hinfix)
  | cons c t ih =>
    simp only [cutAt] at h
    split at h
    next =>
      obtain ⟨rfl, _⟩ := by simpa using h
      exact fun hinfix => hne (List.infix_nil.mp hinfix)
    next hnone =>
      simp only [Option.map_eq_some_iff, Prod.mk.injEq, Prod.exists] at h
      obtain ⟨b, a, h, rfl, rfl⟩ := h
      rw [List.infix_cons_iff, not_or]
      refine ⟨fun hstart => ?_, ih h⟩
      -- An occurrence at the start would have been the first one.
      refine dropStart?_eq_none_iff.mp hnone (hstart.trans ?_)
      rw [List.cons_prefix_cons, eq_of_cutAt h, List.append_assoc]
      exact ⟨rfl, List.prefix_append b _⟩

/-! ## Trimming -/

/-- Trimming at the start stops at a code point that stays. -/
theorem trimStart_around {p : CodePoint → Bool} {c : CodePoint} (h : p c = false)
    (before rest : Text) :
    trimStart p (before ++ c :: rest) = trimStart p before ++ c :: rest := by
  induction before with
  | nil => simp [trimStart, h]
  | cons b before ih =>
    simp only [trimStart, List.cons_append, List.dropWhile_cons] at ih ⊢
    split
    next => exact ih
    next => rfl

/-- Trimming at the end stops at a code point that stays. -/
theorem trimEnd_around {p : CodePoint → Bool} {c : CodePoint} (h : p c = false)
    (before rest : Text) :
    trimEnd p (before ++ c :: rest) = before ++ c :: trimEnd p rest := by
  have hr := trimStart_around h rest.reverse before.reverse
  simp only [trimStart] at hr
  simp [trimEnd, hr]

/-- What trimming at the start leaves is the end of the text. -/
theorem trimStart_suffix (p : CodePoint → Bool) (t : Text) : trimStart p t <:+ t :=
  List.dropWhile_suffix p

/-- What trimming at the end leaves is the start of the text. -/
theorem trimEnd_prefix (p : CodePoint → Bool) (t : Text) : trimEnd p t <+: t := by
  rw [← List.reverse_suffix, trimEnd, List.reverse_reverse]
  exact List.dropWhile_suffix p

/-- The code point at which trimming at the start stops stays. -/
theorem head?_trimStart {p : CodePoint → Bool} {t : Text} {c : CodePoint}
    (h : (trimStart p t).head? = some c) : p c = false := by
  have := List.head?_dropWhile_not p t
  rw [trimStart] at h
  rw [h] at this
  simpa using this

/-- The code point at which trimming at the end stops stays. -/
theorem getLast?_trimEnd {p : CodePoint → Bool} {t : Text} {c : CodePoint}
    (h : (trimEnd p t).getLast? = some c) : p c = false := by
  rw [trimEnd, List.getLast?_reverse] at h
  exact head?_trimStart (p := p) (t := t.reverse) h

/-- Trimming at the end leaves a text alone exactly if its last code point stays. -/
theorem trimEnd_eq_self_iff {p : CodePoint → Bool} {t : Text} :
    trimEnd p t = t ↔ ∀ c, t.getLast? = some c → p c = false := by
  constructor
  · intro h c hc
    rw [← h] at hc
    exact getLast?_trimEnd hc
  · intro h
    rcases List.eq_nil_or_concat t with rfl | ⟨init, c, rfl⟩
    · rfl
    · rw [List.concat_eq_append] at h ⊢
      exact trimEnd_around (h c List.getLast?_concat) init []

/-- A code point to be taken off makes no difference at the end. -/
theorem trimEnd_concat {p : CodePoint → Bool} {c : CodePoint} (h : p c = true) (t : Text) :
    trimEnd p (t ++ [c]) = trimEnd p t := by
  unfold trimEnd
  rw [List.reverse_append, List.reverse_singleton, List.singleton_append,
    List.dropWhile_cons_of_pos h]

/-- A trimmed text does not end with a blank. -/
theorem getLast?_trim {t : Text} {c : CodePoint} (h : (trim t).getLast? = some c) :
    c.isBlank = false :=
  getLast?_trimEnd h

/-- A trimmed text does not begin with a blank. -/
theorem head?_trim {t : Text} {c : CodePoint} (h : (trim t).head? = some c) :
    c.isBlank = false := by
  obtain ⟨rest, hrest⟩ := trimEnd_prefix CodePoint.isBlank (trimStart CodePoint.isBlank t)
  apply head?_trimStart (p := CodePoint.isBlank) (t := t)
  rw [← hrest, List.head?_append, show trimEnd CodePoint.isBlank _ = trim t from rfl, h]
  rfl

/-- A text with something at both ends that is not blank. -/
structure Firm (t : Text) : Prop where
  first : ∃ c rest, t = c :: rest ∧ c.isBlank = false
  last : ∃ init c, t = init ++ [c] ∧ c.isBlank = false

/-- Trimming passes over a firm inside, and trims what stands before and after it. -/
theorem trim_around {inside : Text} (h : Firm inside) (before after : Text) :
    trim (before ++ inside ++ after) =
      trimStart CodePoint.isBlank before ++ inside ++ trimEnd CodePoint.isBlank after := by
  obtain ⟨c, rest, hfirst, hc⟩ := h.first
  obtain ⟨init, d, hlast, hd⟩ := h.last
  have hstart : trimStart CodePoint.isBlank (before ++ inside ++ after) =
      trimStart CodePoint.isBlank before ++ inside ++ after := by
    rw [List.append_assoc, List.append_assoc, hfirst, List.cons_append]
    exact trimStart_around hc before (rest ++ after)
  rw [trim, hstart, hlast]
  have hend := trimEnd_around hd (trimStart CodePoint.isBlank before ++ init) after
  simpa using hend

/-- What is left of a text that is not all blank is firm. -/
theorem firm_trim {t : Text} (h : isBlank t = false) : Firm (trim t) := by
  obtain ⟨c, hc, hblank⟩ : ∃ c ∈ t, c.isBlank = false := by
    simpa [isBlank, List.all_eq_false] using h
  obtain ⟨before, after, rfl⟩ := List.append_of_mem hc
  have hne : trim (before ++ c :: after) ≠ [] := by
    have hfirm : Firm [c] := ⟨⟨c, [], rfl, hblank⟩, ⟨[], c, rfl, hblank⟩⟩
    have htrim := trim_around hfirm before after
    rw [List.append_assoc, List.singleton_append] at htrim
    rw [htrim]
    simp
  refine ⟨⟨_, _, (List.cons_head_tail hne).symm, ?_⟩,
    ⟨_, _, (List.dropLast_concat_getLast hne).symm, ?_⟩⟩
  · exact head?_trim (List.head?_eq_some_head hne)
  · exact getLast?_trim (List.getLast?_eq_some_getLast hne)

/-- Trimming takes off a blank at the end. -/
theorem trim_concat {c : CodePoint} (h : c.isBlank = true) (t : Text) :
    trim (t ++ [c]) = trim t := by
  unfold trim
  simp only [trimStart]
  rw [List.dropWhile_append]
  split
  next hall =>
    rw [List.isEmpty_iff.mp hall]
    simp [h]
  next => exact trimEnd_concat h _

/-- Of blanks nothing is left. -/
theorem trim_of_isBlank {t : Text} (h : isBlank t = true) : trim t = [] := by
  cases hrest : trimStart CodePoint.isBlank t with
  | nil => rw [trim, hrest]; rfl
  | cons c rest =>
    -- Trimming would have stopped at a code point of the text that is no blank.
    have hc : c.isBlank = false :=
      head?_trimStart (p := CodePoint.isBlank) (t := t) (by rw [hrest]; rfl)
    have hmem : c ∈ t := (trimStart_suffix CodePoint.isBlank t).subset (by rw [hrest]; simp)
    rw [isBlank, List.all_eq_true] at h
    rw [h c hmem] at hc
    cases hc

/-- Nothing is left exactly of blanks. -/
theorem trim_eq_nil_iff {t : Text} : trim t = [] ↔ isBlank t = true := by
  constructor
  · intro htrim
    cases hblank : isBlank t with
    | true => rfl
    | false =>
      obtain ⟨c, rest, hfirst, _⟩ := (firm_trim hblank).first
      rw [htrim] at hfirst
      cases hfirst
  · exact trim_of_isBlank

/-- A text without blanks around it stays as it is. -/
theorem trim_of_firm {t : Text} (h : Firm t) : trim t = t := by
  have htrim := trim_around h [] []
  simpa [trimStart, trimEnd] using htrim

/-- Trimming once is enough. -/
theorem trim_trim (t : Text) : trim (trim t) = trim t := by
  by_cases h : isBlank t = true
  · rw [trim_of_isBlank h]
    rfl
  · exact trim_of_firm (firm_trim (by simpa using h))

/-- Trimming keeps every occurrence of a firm text. -/
theorem infix_trim_iff {inside t : Text} (h : Firm inside) :
    inside <:+: trim t ↔ inside <:+: t := by
  constructor
  · intro hinfix
    have hend : trim t <+: trimStart CodePoint.isBlank t := trimEnd_prefix ..
    exact hinfix.trans (hend.isInfix.trans (trimStart_suffix _ t).isInfix)
  · rintro ⟨before, after, rfl⟩
    rw [trim_around h]
    exact ⟨_, _, rfl⟩

/-! ## Replacement -/

/-- A prefix that does not hold a code point ends before it. -/
theorem prefix_before_barrier {old before rest : Text} {c : CodePoint} (hc : c ∉ old)
    (h : old <+: before ++ c :: rest) : old <+: before := by
  induction old generalizing before with
  | nil => exact List.nil_prefix
  | cons o old ih =>
    obtain ⟨ho, hc⟩ := not_or.mp (mt List.mem_cons.mpr hc)
    cases before with
    | nil =>
      rw [List.nil_append, List.cons_prefix_cons] at h
      exact absurd h.1.symm ho
    | cons b before =>
      rw [List.cons_append, List.cons_prefix_cons] at h
      exact List.cons_prefix_cons.mpr ⟨h.1, ih hc h.2⟩

/-- An occurrence lies on one side of a code point that it does not hold. -/
theorem infix_barrier {needle before after : Text} {c : CodePoint} (hc : c ∉ needle) :
    needle <:+: before ++ c :: after ↔ needle <:+: before ∨ needle <:+: after := by
  constructor
  · intro h
    induction before with
    | nil =>
      rcases List.infix_cons_iff.mp h with h | h
      · exact Or.inl (prefix_before_barrier hc (show needle <+: [] ++ c :: after from h)).isInfix
      · exact Or.inr h
    | cons b before ih =>
      rcases List.infix_cons_iff.mp h with h | h
      · exact Or.inl (prefix_before_barrier hc
          (show needle <+: (b :: before) ++ c :: after from h)).isInfix
      · exact (ih h).imp_left fun h => h.trans (List.suffix_cons b before).isInfix
  · rintro (h | h)
    · exact h.trans (List.prefix_append before _).isInfix
    · exact h.trans ((List.suffix_cons c after).trans (List.suffix_append before _)).isInfix

/-- No occurrence reaches over a code point that `old` does not hold: replacement starts afresh
there. The `skip` code points that belong to an earlier occurrence lie before it. -/
theorem replaceFrom_barrier {old : Text} {c : CodePoint} (hc : c ∉ old) (new rest : Text) :
    ∀ (before : Text) (skip : Nat), skip ≤ before.length →
      replaceFrom old new skip (before ++ c :: rest) =
        replaceFrom old new skip before ++ replaceFrom old new 0 (c :: rest) := by
  intro before
  induction before with
  | nil =>
    intro skip hskip
    obtain rfl : skip = 0 := Nat.le_zero.mp hskip
    rfl
  | cons b before ih =>
    intro skip hskip
    cases skip with
    | succ skip =>
      rw [List.cons_append, replaceFrom, replaceFrom]
      exact ih skip (Nat.le_of_succ_le_succ hskip)
    | zero =>
      rw [List.cons_append, replaceFrom, replaceFrom]
      -- An occurrence that begins here ends before the barrier, so both sides see the same ones.
      by_cases hb : startsWith (b :: before) old = true
      · have hlong : startsWith (b :: (before ++ c :: rest)) old = true :=
          startsWith_iff.mpr ((startsWith_iff.mp hb).trans (List.prefix_append (b :: before) _))
        have hlength := (startsWith_iff.mp hb).length_le
        rw [List.length_cons] at hlength
        rw [if_pos hb, if_pos hlong, ih _ (by omega), List.append_assoc]
      · have hlong : ¬ startsWith (b :: (before ++ c :: rest)) old = true := fun h =>
          hb (startsWith_iff.mpr
            (prefix_before_barrier hc (show old <+: (b :: before) ++ c :: rest from
              startsWith_iff.mp h)))
        rw [if_neg hb, if_neg hlong, ih 0 (Nat.zero_le _), List.cons_append]

/-- Nothing is replaced where no occurrence begins. -/
theorem replaceFrom_free {o : CodePoint} (old new rest : Text) :
    ∀ (free : Text), o ∉ free →
      replaceFrom (o :: old) new 0 (free ++ rest) = free ++ replaceFrom (o :: old) new 0 rest := by
  intro free
  induction free with
  | nil => intro _; rfl
  | cons c free ih =>
    intro ho
    obtain ⟨hc, hfree⟩ := not_or.mp (mt List.mem_cons.mpr ho)
    have hno : ¬ startsWith (c :: (free ++ rest)) (o :: old) = true := by
      rw [startsWith_iff, List.cons_prefix_cons]
      exact fun h => hc h.1
    rw [List.cons_append, replaceFrom, if_neg hno, ih hfree]
    rfl

/-- A replacement leaves alone what begins with a code point that `old` does not hold and in
which `old` does not begin, and works on its two sides separately. -/
theorem replace_barrier {o c : CodePoint} {old barrier : Text} (hc : c ∉ o :: old)
    (ho : o ∉ c :: barrier) (before after new : Text) :
    replace (before ++ (c :: barrier) ++ after) (o :: old) new =
      replace before (o :: old) new ++ (c :: barrier) ++ replace after (o :: old) new := by
  have hfree := replaceFrom_free old new after (c :: barrier) ho
  have hbefore := replaceFrom_barrier hc new (barrier ++ after) before 0 (Nat.zero_le _)
  rw [List.cons_append] at hfree
  simp only [replace, List.isEmpty_cons, Bool.false_eq_true, if_false]
  rw [List.append_assoc, List.append_assoc, List.cons_append, hbefore, hfree, List.cons_append]

/-! ## Joining -/

theorem join_cons_cons (separator t u : Text) (ts : List Text) :
    join separator (t :: u :: ts) = t ++ separator ++ join separator (u :: ts) := rfl

theorem join_eq_intercalate (separator : Text) (ts : List Text) :
    join separator ts = separator.intercalate ts := by
  induction ts with
  | nil => rfl
  | cons t ts ih =>
    cases ts with
    | nil => exact List.intercalate_singleton.symm
    | cons u ts => rw [join_cons_cons, List.intercalate_cons_cons, ih]

/-- The separator stands before each text but the first. -/
theorem join_eq_flatMap (separator t : Text) (ts : List Text) :
    join separator (t :: ts) = t ++ ts.flatMap (separator ++ ·) := by
  induction ts generalizing t with
  | nil => exact (List.append_nil t).symm
  | cons u ts ih => rw [join_cons_cons, ih, List.flatMap_cons, List.append_assoc, List.append_assoc]

/-- Joined texts begin with the first of them. -/
theorem join_cons (separator t : Text) (ts : List Text) :
    ∃ tail, join separator (t :: ts) = t ++ tail :=
  ⟨_, join_eq_flatMap separator t ts⟩

/-- More texts are joined each with a separator before it. -/
theorem join_append_flatMap (separator : Text) {ts : List Text} (hts : ts ≠ []) (us : List Text) :
    join separator (ts ++ us) = join separator ts ++ us.flatMap (separator ++ ·) := by
  obtain ⟨t, ts, rfl⟩ := List.exists_cons_of_ne_nil hts
  rw [List.cons_append, join_eq_flatMap, join_eq_flatMap, List.flatMap_append, List.append_assoc]

/-- The separator stands between the texts of two lists too. -/
theorem join_append (separator : Text) {ts us : List Text} (hts : ts ≠ []) (hus : us ≠ []) :
    join separator (ts ++ us) = join separator ts ++ separator ++ join separator us := by
  obtain ⟨u, us, rfl⟩ := List.exists_cons_of_ne_nil hus
  rw [join_append_flatMap separator hts, join_eq_flatMap, List.flatMap_cons]
  simp only [List.append_assoc]

/-- The separator stands between the texts of two lists only if neither list is empty. -/
theorem join_append_iff {separator : Text} (hseparator : separator ≠ []) (ts us : List Text) :
    join separator (ts ++ us) = join separator ts ++ separator ++ join separator us ↔
      ts ≠ [] ∧ us ≠ [] := by
  constructor
  · intro h
    constructor
    · rintro rfl
      exact hseparator (List.append_left_eq_self.mp h.symm)
    · rintro rfl
      rw [List.append_nil, join, List.append_nil] at h
      exact hseparator (List.append_right_eq_self.mp h.symm)
  · intro h
    exact join_append separator h.1 h.2

/-- The first of some texts, joined, are what all of them begin with. -/
theorem join_prefix (separator : Text) {ts ts' : List Text} (h : ts <+: ts') :
    join separator ts <+: join separator ts' := by
  induction ts generalizing ts' with
  | nil => exact List.nil_prefix
  | cons t ts ih =>
    obtain ⟨rest, rfl⟩ := h
    cases ts with
    | nil =>
      obtain ⟨tail, htail⟩ := join_cons separator t rest
      exact ⟨tail, htail.symm⟩
    | cons u ts =>
      rw [List.cons_append, List.cons_append, join_cons_cons, join_cons_cons]
      exact (List.prefix_append_right_inj _).mpr (ih (List.prefix_append _ rest))

/-- What is done to each code point of joined texts is done to the texts and what separates them. -/
theorem flatMap_join (f : CodePoint → Text) (separator : Text) (ts : List Text) :
    (join separator ts).flatMap f =
      join (separator.flatMap f) (ts.map (List.flatMap f)) := by
  induction ts with
  | nil => rfl
  | cons t ts ih =>
    cases ts with
    | nil => rfl
    | cons u ts =>
      rw [join_cons_cons, List.flatMap_append, List.flatMap_append, ih]
      rfl

/-- A joined text holds what the separator and the texts hold. -/
theorem mem_of_mem_join {separator : Text} {ts : List Text} {c : CodePoint}
    (h : c ∈ join separator ts) : c ∈ separator ∨ ∃ t ∈ ts, c ∈ t := by
  induction ts with
  | nil => cases h
  | cons t ts ih =>
    cases ts with
    | nil => exact Or.inr ⟨t, List.mem_cons_self .., h⟩
    | cons u ts =>
      rw [join_cons_cons, List.mem_append, List.mem_append] at h
      rcases h with (h | h) | h
      · exact Or.inr ⟨t, List.mem_cons_self .., h⟩
      · exact Or.inl h
      · rcases ih h with h | ⟨t', ht', h⟩
        · exact Or.inl h
        · exact Or.inr ⟨t', List.mem_cons_of_mem t ht', h⟩

/-! ## The last of some code points -/

/-- What follows the last occurrence of a code point is told. -/
theorem append_cons_inj_of_last {c : CodePoint} {s s' l l' : Text} (h : c ∉ l) (h' : c ∉ l')
    (heq : s ++ c :: l = s' ++ c :: l') : s = s' ∧ l = l' := by
  have hreverse := congrArg List.reverse heq
  simp only [List.reverse_append, List.reverse_cons, List.append_assoc,
    List.singleton_append] at hreverse
  have hcut : cutAt [c] (l.reverse ++ c :: s.reverse) = some (l.reverse, s.reverse) :=
    cutAt_point_iff.mpr ⟨fun hmem => h (List.mem_reverse.mp hmem), rfl⟩
  rw [hreverse, cutAt_point_iff.mpr ⟨fun hmem => h' (List.mem_reverse.mp hmem), rfl⟩] at hcut
  obtain ⟨hl, hs⟩ := Prod.mk.inj (Option.some.inj hcut)
  exact ⟨(List.reverse_inj.mp hs).symm, (List.reverse_inj.mp hl).symm⟩

/-- As many lines at the end are told, one by one. -/
theorem lines_inj {c : CodePoint} {ls ls' : List Text} (hlength : ls.length = ls'.length)
    (h : ∀ l ∈ ls, c ∉ l) (h' : ∀ l ∈ ls', c ∉ l) {s s' : Text}
    (heq : s ++ ls.flatMap (c :: ·) = s' ++ ls'.flatMap (c :: ·)) : s = s' ∧ ls = ls' := by
  induction ls generalizing ls' s s' with
  | nil =>
    obtain rfl := List.eq_nil_of_length_eq_zero hlength.symm
    exact ⟨List.append_cancel_right heq, rfl⟩
  | cons l ls ih =>
    cases ls' with
    | nil => cases hlength
    | cons l' ls' =>
      obtain ⟨hl, hls⟩ := List.forall_mem_cons.mp h
      obtain ⟨hl', hls'⟩ := List.forall_mem_cons.mp h'
      rw [List.flatMap_cons, List.flatMap_cons, ← List.append_assoc, ← List.append_assoc] at heq
      obtain ⟨hline, rfl⟩ := ih (Nat.succ.inj hlength) hls hls' heq
      obtain ⟨rfl, rfl⟩ := append_cons_inj_of_last hl hl' hline
      exact ⟨rfl, rfl⟩

end Scaffold.Text
