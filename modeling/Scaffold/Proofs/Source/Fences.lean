import Mathlib.Data.List.Forall2
import Mathlib.Data.List.TakeWhile
import Scaffold.Proofs.Source.Extraction

/-!
# Where blocks open and close

A block opens at a fence and closes at the next one. Every way in which it can open begins with a
fence (`afterFence`), so the search for a block passes over all text in which no fence starts
(`firstBlock_sealed`). That text must not end in a backtick: one at its end could be the first of
a fence with what follows.

What an opening asks of the rest of its line is said here by how the line splits: a tag after
blanks (`afterTag?_eq_some_iff`), or anything at all up to the line feed (`afterLine?_of_line`).
-/

namespace Scaffold.Source

/-! ## Texts without fences -/

/-- No fence stands in the text. -/
def Unfenced (t : Text) : Prop := ¬ fence <:+: t

instance (t : Text) : Decidable (Unfenced t) :=
  decidable_of_iff (Text.contains t fence = false) <| by
    rw [Unfenced, ← Text.contains_iff, Bool.not_eq_true]

/-- No fence starts in the text, whatever follows it. -/
structure Sealed (t : Text) : Prop where
  unfenced : Unfenced t
  last : t.getLast? ≠ some (.char '`')

theorem eq_backtick_of_mem_fence {c : CodePoint} (h : c ∈ fence) : c = .char '`' := by
  have hfence : fence = List.replicate 3 (.char '`') := rfl
  rw [hfence] at h
  exact List.eq_of_mem_replicate h

theorem newline_not_mem_fence : CodePoint.char '\n' ∉ fence := by
  intro h
  cases eq_backtick_of_mem_fence h

/-- A part of a text without fences is without fences. -/
theorem Unfenced.of_infix {t part : Text} (h : Unfenced t) (hpart : part <:+: t) :
    Unfenced part := fun hfence => h (hfence.trans hpart)

/-- No fence reaches over a line feed. -/
theorem unfenced_lines_iff {line rest : Text} :
    Unfenced (line ++ .char '\n' :: rest) ↔ Unfenced line ∧ Unfenced rest := by
  unfold Unfenced
  rw [Text.infix_barrier newline_not_mem_fence, not_or]

theorem sealed_nil : Sealed [] := ⟨by decide, nofun⟩

/-- A text that ends with a line is sealed. -/
theorem sealed_line {t : Text} (h : Unfenced t) : Sealed (t ++ [.char '\n']) := by
  refine ⟨unfenced_lines_iff.mpr ⟨h, by decide⟩, ?_⟩
  simp

/-- What follows the first code point of a sealed text is sealed. -/
theorem Sealed.tail {c : CodePoint} {t : Text} (h : Sealed (c :: t)) : Sealed t := by
  refine ⟨h.unfenced.of_infix (List.suffix_cons c t).isInfix, ?_⟩
  cases t with
  | nil => exact nofun
  | cons d t =>
    have hlast := h.last
    rwa [List.getLast?_cons_cons] at hlast

/-- A fence that starts in a text stands in it, or the text ends within the fence. -/
theorem Sealed.not_prefix {t : Text} (h : Sealed t) (hne : t ≠ []) (rest : Text) :
    ¬ fence <+: t ++ rest := by
  intro hfence
  rcases List.prefix_or_prefix_of_prefix hfence (List.prefix_append t rest) with hin | hover
  · exact h.unfenced hin.isInfix
  · have hlast := List.getLast?_eq_some_getLast hne
    have hmem := hover.subset (List.getLast_mem hne)
    rw [eq_backtick_of_mem_fence hmem] at hlast
    exact h.last hlast

/-! ## Bodies -/

/-- The first fence after a sealed text is the one that stands there. -/
theorem cutAt_sealed {inside : Text} (h : Sealed inside) (rest : Text) :
    Text.cutAt fence (inside ++ (fence ++ rest)) = some (inside, rest) := by
  induction inside with
  | nil => exact Text.cutAt_append_self fence rest
  | cons c inside ih =>
    have hnone := Text.dropStart?_eq_none_iff.mpr
      (h.not_prefix (List.cons_ne_nil c inside) (fence ++ rest))
    rw [List.cons_append] at hnone ⊢
    rw [Text.cutAt, hnone, ih h.tail]
    rfl

/-- The body of a block goes up to the fence after it. -/
theorem body?_sealed {inside : Text} (h : Sealed inside) (rest : Text) :
    body? (inside ++ (fence ++ rest)) = some inside := by
  rw [body?, cutAt_sealed h rest]
  rfl

/-- A body that no fence ends is none. -/
theorem body?_eq_none_iff {t : Text} : body? t = none ↔ Unfenced t := by
  rw [Unfenced, ← Text.contains_iff, Text.contains, body?, Option.map_eq_none_iff,
    Option.not_isSome_iff_eq_none]

/-- A body holds no fence. -/
theorem unfenced_of_body? {t body : Text} (h : body? t = some body) : Unfenced body := by
  obtain ⟨⟨before, after⟩, hcut, rfl⟩ := Option.map_eq_some_iff.mp h
  exact Text.not_infix_of_cutAt (by decide) hcut

theorem beforeFence_unfenced {t : Text} (h : Unfenced t) : beforeFence t = t := by
  rw [beforeFence, body?_eq_none_iff.mpr h]
  rfl

/-! ## The search for a block -/

section

variable (next : Opening)

/-- Where no fence starts no block opens. -/
theorem firstBlock_skip {c : CodePoint} {t : Text} (h : ¬ fence <+: c :: t) :
    firstBlock (afterFence next) (c :: t) = firstBlock (afterFence next) t := by
  rw [firstBlock, afterFence, Text.dropStart?_eq_none_iff.mpr h]
  rfl

/-- The search for a block passes over a sealed text. -/
theorem firstBlock_sealed {t : Text} (h : Sealed t) (rest : Text) :
    firstBlock (afterFence next) (t ++ rest) = firstBlock (afterFence next) rest := by
  induction t with
  | nil => rfl
  | cons c t ih =>
    have hskip := h.not_prefix (List.cons_ne_nil c t) rest
    rw [List.cons_append] at hskip ⊢
    rw [firstBlock_skip next hskip, ih h.tail]

/-- Without a fence it finds none. -/
theorem firstBlock_unfenced {t : Text} (h : Unfenced t) :
    firstBlock (afterFence next) t = none := by
  induction t with
  | nil => rfl
  | cons c t ih =>
    rw [firstBlock_skip next fun hfence => h hfence.isInfix]
    exact ih (h.of_infix (List.suffix_cons c t).isInfix)

/-- A block opens at a fence, or later than its first backtick. -/
theorem firstBlock_fence (t : Text) :
    firstBlock (afterFence next) (fence ++ t) =
      ((next t).bind body?).or (firstBlock (afterFence next) (.char '`' :: .char '`' :: t)) := by
  show ((afterFence next (fence ++ t)).bind body?).or _ = _
  rw [afterFence, Text.dropStart?_append]
  rfl

end

/-! ## The rest of the line -/

/-- A word does not go on at the start of the text. -/
def EndsWord (t : Text) : Prop := ∀ c, t.head? = some c → c.isWord = false

/-- Nothing goes on, or what goes on is no word. -/
theorem atWordEnd_iff {t : Text} : atWordEnd t = true ↔ EndsWord t := by
  cases t with
  | nil => exact ⟨fun _ => nofun, fun _ => rfl⟩
  | cons c t => simp [atWordEnd, EndsWord]

/-- The text spells the word, each of its letters small or capital. -/
def Spells (word : List Char) (t : Text) : Prop :=
  List.Forall₂ (fun letter c => c = .char letter ∨ c = .char letter.toUpper) word t

/-- A spelling of a word has its letters only, in either case. -/
theorem Spells.mem {word : List Char} {t : Text} (h : Spells word t) {c : CodePoint}
    (hc : c ∈ t) : ∃ letter ∈ word, c = .char letter ∨ c = .char letter.toUpper := by
  induction h with
  | nil => cases hc
  | @cons letter _ word _ hfirst _ ih =>
    rcases List.mem_cons.mp hc with rfl | hc
    · exact ⟨letter, List.mem_cons_self .., hfirst⟩
    · obtain ⟨letter', hmem, hcase⟩ := ih hc
      exact ⟨letter', List.mem_cons_of_mem _ hmem, hcase⟩

/-- But for one letter, a small letter is matched by itself and its capital. -/
theorem foldsTo_iff {c : CodePoint} {letter : Char} (h : letter ≠ 'i') :
    c.foldsTo letter = true ↔ c = .char letter ∨ c = .char letter.toUpper := by
  simp [CodePoint.foldsTo, h]

/-- Folded letters are found where the text begins with a spelling of them. -/
theorem dropFolded?_eq_some_iff {word : List Char} (h : 'i' ∉ word) {t rest : Text} :
    Text.dropFolded? word t = some rest ↔ ∃ tag, t = tag ++ rest ∧ Spells word tag := by
  induction word generalizing t with
  | nil =>
    rw [Text.dropFolded?, Option.some_inj]
    constructor
    · rintro rfl
      exact ⟨[], rfl, .nil⟩
    · rintro ⟨tag, rfl, htag⟩
      cases htag
      rfl
  | cons letter word ih =>
    -- The letter `i` is left out because more than its two cases fold to it.
    obtain ⟨hletter, hword⟩ := not_or.mp (mt List.mem_cons.mpr h)
    cases t with
    | nil =>
      refine iff_of_false (Option.some_ne_none _).symm ?_
      rintro ⟨tag, ht, htag⟩
      cases htag
      cases ht
    | cons c t =>
      rw [Text.dropFolded?]
      by_cases hfolds : c.foldsTo letter = true
      · rw [if_pos hfolds, ih hword]
        constructor
        · rintro ⟨tag, rfl, htag⟩
          exact ⟨c :: tag, rfl, .cons ((foldsTo_iff (Ne.symm hletter)).mp hfolds) htag⟩
        · rintro ⟨_, ht, htag⟩
          cases htag with
          | cons _ htag =>
            cases ht
            exact ⟨_, rfl, htag⟩
      · rw [if_neg hfolds]
        refine iff_of_false (Option.some_ne_none _).symm ?_
        rintro ⟨_, ht, htag⟩
        cases htag with
        | cons hc _ =>
          cases ht
          exact hfolds ((foldsTo_iff (Ne.symm hletter)).mpr hc)

/-- Spaces and tabs. -/
def Blanks (t : Text) : Prop := ∀ c ∈ t, c = .char ' ' ∨ c = .char '\t'

/-- A tag stands after spaces and tabs, and no word goes on after it. -/
theorem afterTag?_eq_some_iff {t after : Text} :
    afterTag? t = some after ↔ ∃ blanks tag, t = blanks ++ (tag ++ after) ∧ Blanks blanks ∧
      Spells ['p', 'h', 'p'] tag ∧ EndsWord after := by
  have hi : 'i' ∉ ['p', 'h', 'p'] := by decide
  unfold afterTag?
  simp only [Option.bind_eq_bind, Option.bind_eq_some_iff, dropFolded?_eq_some_iff hi]
  constructor
  · rintro ⟨rest, ⟨tag, htag, hspells⟩, hend⟩
    split at hend
    next hword =>
      cases hend
      refine ⟨t.takeWhile fun c => c = .char ' ' || c = .char '\t', tag, ?_, ?_, hspells,
        atWordEnd_iff.mp hword⟩
      · rw [← htag, List.takeWhile_append_dropWhile]
      · intro c hc
        simpa using List.mem_takeWhile_imp hc
    next => cases hend
  · rintro ⟨blanks, tag, rfl, hblanks, hspells, hword⟩
    refine ⟨after, ⟨tag, ?_, hspells⟩, if_pos (atWordEnd_iff.mpr hword)⟩
    -- A tag does not begin with a blank, so that all blanks are dropped and nothing else.
    rw [List.dropWhile_append_of_pos (by simpa [Blanks] using hblanks)]
    cases hspells with
    | cons hp _ => rcases hp with rfl | rfl <;> rfl

/-- The line may be anything that holds no backtick. -/
theorem afterLine?_of_line {line : Text} (hline : .char '\n' ∉ line) (htick : .char '`' ∉ line)
    (rest : Text) : afterLine? (line ++ .char '\n' :: rest) = some rest := by
  have hdrop : (line ++ .char '\n' :: rest).dropWhile
      (fun c : CodePoint => c ≠ .char '\n' ∧ c ≠ .char '`') = .char '\n' :: rest := by
    rw [List.dropWhile_append_of_pos fun c hc => decide_eq_true
      ⟨fun heq => hline (heq ▸ hc), fun heq => htick (heq ▸ hc)⟩]
    rfl
  unfold afterLine?
  rw [hdrop]
  rfl

/-! ## Opening tags -/

/-- The text begins with the opening tag as a word of its own. -/
def OpensSource (t : Text) : Prop := ∃ after, t = openingTag ++ after ∧ EndsWord after

/-- The end of a text that begins with its first opening tag. -/
structure FirstSource (t source : Text) : Prop where
  suffix : source <:+ t
  opens : OpensSource source
  first : ∀ {other : Text}, other <:+ t → OpensSource other → other <:+ source

theorem not_opensSource_nil : ¬ OpensSource [] := by
  rintro ⟨after, h, _⟩
  cases h

/-- A source is found where it begins. -/
theorem fromOpeningTag?_here {t : Text} (h : OpensSource t) : fromOpeningTag? t = some t := by
  obtain ⟨after, ht, hend⟩ := h
  cases t with
  | nil => exact absurd ⟨after, ht, hend⟩ not_opensSource_nil
  | cons c t =>
    rw [fromOpeningTag?, ht, Text.dropStart?_append]
    exact if_pos (atWordEnd_iff.mpr hend)

/-- Where no opening tag stands, one is looked for further on. -/
theorem fromOpeningTag?_later {c : CodePoint} {t : Text} (h : ¬ OpensSource (c :: t)) :
    fromOpeningTag? (c :: t) = fromOpeningTag? t := by
  rw [fromOpeningTag?]
  split
  next after hafter =>
    exact if_neg fun hend => h ⟨after, Text.eq_append_of_dropStart? hafter, atWordEnd_iff.mp hend⟩
  next => rfl

/-- The first place where a source begins is found. -/
theorem fromOpeningTag?_eq_some {t source : Text} (h : FirstSource t source) :
    fromOpeningTag? t = some source := by
  obtain ⟨before, rfl⟩ := h.suffix
  induction before with
  | nil => exact fromOpeningTag?_here h.opens
  | cons c before ih =>
    -- The whole text is longer than the source, which would have to hold it.
    have hlater : ¬ OpensSource (c :: (before ++ source)) := by
      intro hopens
      have hlength := (h.first (List.suffix_refl _) hopens).length_le
      rw [List.length_append, List.length_cons] at hlength
      omega
    rw [List.cons_append, fromOpeningTag?_later hlater]
    exact ih ⟨List.suffix_append before source, h.opens,
      fun hother => h.first (hother.trans (List.suffix_cons c _))⟩

/-- What is found begins at the first such place. -/
theorem firstSource_of_fromOpeningTag? {t source : Text} (h : fromOpeningTag? t = some source) :
    FirstSource t source := by
  induction t with
  | nil => cases h
  | cons c t ih =>
    by_cases hopens : OpensSource (c :: t)
    · rw [fromOpeningTag?_here hopens] at h
      cases h
      exact ⟨List.suffix_refl _, hopens, fun hother _ => hother⟩
    · rw [fromOpeningTag?_later hopens] at h
      obtain ⟨hsuffix, hsource, hfirst⟩ := ih h
      refine ⟨hsuffix.trans (List.suffix_cons c t), hsource, fun {other} hother hopens' => ?_⟩
      rcases List.suffix_cons_iff.mp hother with rfl | hother
      · exact absurd hopens' hopens
      · exact hfirst hother hopens'

/-- Nothing is found exactly if there is no such place. -/
theorem fromOpeningTag?_eq_none_iff {t : Text} :
    fromOpeningTag? t = none ↔ ∀ {source : Text}, source <:+ t → ¬ OpensSource source := by
  induction t with
  | nil =>
    refine ⟨fun _ source hsource => ?_, fun _ => rfl⟩
    rw [List.suffix_nil.mp hsource]
    exact not_opensSource_nil
  | cons c t ih =>
    by_cases hopens : OpensSource (c :: t)
    · rw [fromOpeningTag?_here hopens]
      exact iff_of_false nofun fun hnone => hnone (List.suffix_refl _) hopens
    · rw [fromOpeningTag?_later hopens, ih]
      refine ⟨fun hnone source hsource => ?_, fun hnone source hsource =>
        hnone (hsource.trans (List.suffix_cons c t))⟩
      rcases List.suffix_cons_iff.mp hsource with rfl | hsource
      · exact hopens
      · exact hnone hsource

end Scaffold.Source
