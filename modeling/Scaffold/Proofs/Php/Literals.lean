import Scaffold.Php.Literal
import Scaffold.Proofs.Text.Search

/-!
# Reading literals

A single-quoted literal ends at its first quote that no backslash escapes, and a backslash stands
for itself unless a backslash or a quote follows it (`literal?`). A literal that is written by
escaping is read back as the text it stands for, whatever follows it (`literal?_quote`). A text
that is put between quotes as it is stands for itself exactly if it is verbatim
(`literal?_verbatim_iff`): where an escape is read, what has been read stays behind what is written
for good (`not_caught_up`).
-/

namespace Scaffold.Php

/-! ## The reader -/

/-- The value of a literal after its opening quote, and what follows its closing quote. -/
def insideLiteral? : Text → Option (Text × Text)
  | [] => none
  | [c] => if c = '\'' then some ([], []) else none
  | c :: d :: t =>
    if c = '\'' then some ([], d :: t)
    else if c = '\\' ∧ (d = '\\' ∨ d = '\'') then
      (insideLiteral? t).map fun (value, after) => (d :: value, after)
    else (insideLiteral? (d :: t)).map fun (value, after) => (c :: value, after)

/-- The value of the literal with which a text begins, and what follows it. -/
def literal? : Text → Option (Text × Text)
  | [] => none
  | c :: t => if c = '\'' then insideLiteral? t else none

section

variable {c d : CodePoint} {t value after : Text}

/-- A quote ends the literal. -/
theorem insideLiteral?_close (t : Text) : insideLiteral? (.char '\'' :: t) = some ([], t) := by
  cases t with
  | nil => rfl
  | cons d t => rw [insideLiteral?, if_pos rfl]

/-- A backslash before a quote or a backslash makes it part of the literal. -/
theorem insideLiteral?_escaped (hd : d = .char '\\' ∨ d = .char '\'') (t : Text) :
    insideLiteral? (.char '\\' :: d :: t) =
      (insideLiteral? t).map fun (value, after) => (d :: value, after) := by
  rw [insideLiteral?, if_neg (by decide), if_pos ⟨rfl, hd⟩]

/-- A code point that ends no literal and escapes nothing stands for itself. -/
theorem insideLiteral?_self (hc : c ≠ .char '\'')
    (h : c = .char '\\' → ∀ d ∈ t.head?, d ≠ .char '\\' ∧ d ≠ .char '\'') :
    insideLiteral? (c :: t) = (insideLiteral? t).map fun (value, after) => (c :: value, after) := by
  cases t with
  | nil =>
    have hnone : insideLiteral? [c] = none := if_neg hc
    rw [hnone]
    rfl
  | cons d t =>
    rw [insideLiteral?, if_neg hc, if_neg]
    rintro ⟨hslash, hd⟩
    obtain ⟨hslash', hquote⟩ := h hslash d rfl
    exact hd.elim hslash' hquote

/-- What is read from a text with something in it: the literal ends, or an escape is read, or a
code point that stands for itself. -/
theorem insideLiteral?_cases (h : insideLiteral? t = some (value, after)) :
    (t = .char '\'' :: after ∧ value = []) ∨
    (∃ d rest value', t = .char '\\' :: d :: rest ∧ (d = .char '\\' ∨ d = .char '\'') ∧
      value = d :: value' ∧ insideLiteral? rest = some (value', after)) ∨
    (∃ c rest value', t = c :: rest ∧ c ≠ .char '\'' ∧
      (c = .char '\\' → ∀ d ∈ rest.head?, d ≠ .char '\\' ∧ d ≠ .char '\'') ∧
      value = c :: value' ∧ insideLiteral? rest = some (value', after)) := by
  cases t with
  | nil => cases h
  | cons c t =>
    by_cases hc : c = .char '\''
    · subst hc
      rw [insideLiteral?_close] at h
      obtain ⟨rfl, rfl⟩ := Prod.mk.inj (Option.some.inj h)
      exact Or.inl ⟨rfl, rfl⟩
    · -- A backslash escapes a quote or a backslash, and stands for itself before anything else.
      by_cases hescape : c = .char '\\' ∧ ∃ d rest, t = d :: rest ∧
          (d = .char '\\' ∨ d = .char '\'')
      · obtain ⟨rfl, d, rest, rfl, hd⟩ := hescape
        rw [insideLiteral?_escaped hd] at h
        obtain ⟨⟨value', after'⟩, hread, heq⟩ := Option.map_eq_some_iff.mp h
        obtain ⟨rfl, rfl⟩ := Prod.mk.inj heq
        exact Or.inr (Or.inl ⟨d, rest, value', rfl, hd, rfl, hread⟩)
      · have hself : c = .char '\\' → ∀ d ∈ t.head?, d ≠ .char '\\' ∧ d ≠ .char '\'' := by
          intro hslash d hd
          obtain ⟨rest, rfl⟩ := List.head?_eq_some_iff.mp hd
          exact not_or.mp fun h => hescape ⟨hslash, d, rest, rfl, h⟩
        rw [insideLiteral?_self hc hself] at h
        obtain ⟨⟨value', after'⟩, hread, heq⟩ := Option.map_eq_some_iff.mp h
        obtain ⟨rfl, rfl⟩ := Prod.mk.inj heq
        exact Or.inr (Or.inr ⟨c, t, value', rfl, hc, hself, rfl, hread⟩)

end

/-! ## Escaped texts -/

/-- What is written for a code point is read as that code point. -/
theorem insideLiteral?_escape (c : CodePoint) (t : Text) :
    insideLiteral? (escape c ++ t) =
      (insideLiteral? t).map fun (value, after) => (c :: value, after) := by
  unfold escape
  split
  next h => exact insideLiteral?_escaped h t
  next h =>
    obtain ⟨hslash, hquote⟩ := not_or.mp h
    exact insideLiteral?_self hquote fun h => absurd h hslash

/-- A written literal is read back, whatever follows it. -/
theorem literal?_quote (value rest : Text) :
    literal? (quote value ++ rest) = some (value, rest) := by
  have hinside : insideLiteral? (value.flatMap escape ++ .char '\'' :: rest) =
      some (value, rest) := by
    induction value with
    | nil => exact insideLiteral?_close rest
    | cons c value ih =>
      rw [List.flatMap_cons, List.append_assoc, insideLiteral?_escape, ih]
      rfl
  have hquote : quote value ++ rest =
      .char '\'' :: (value.flatMap escape ++ .char '\'' :: rest) := by
    simp [quote, Text.concat, Text.ofString]
  rw [hquote, literal?, if_pos rfl, hinside]

/-! ## Texts between quotes as they are -/

/-- Between quotes the text stands for itself: it holds no quote, no two backslashes in a row, and
does not end with a backslash. -/
structure Verbatim (t : Text) : Prop where
  unquoted : CodePoint.char '\'' ∉ t
  single : ¬ [CodePoint.char '\\', .char '\\'] <:+: t
  last : t.getLast? ≠ some (.char '\\')

instance (t : Text) : Decidable (Verbatim t) :=
  decidable_of_iff (CodePoint.char '\'' ∉ t ∧
      ¬ Text.contains t [.char '\\', .char '\\'] = true ∧ t.getLast? ≠ some (.char '\\'))
    ⟨fun h => ⟨h.1, mt Text.contains_iff.mpr h.2.1, h.2.2⟩,
      fun h => ⟨h.unquoted, mt Text.contains_iff.mp h.single, h.last⟩⟩

/-- What is read never catches up with what is written once it is some backslashes behind. -/
theorem not_caught_up {t value after : Text} (h : insideLiteral? t = some (value, after))
    (behind : Nat) :
    ¬ value ++ [.char '\''] <+: List.replicate (behind + 1) (.char '\\') ++ t := by
  have hquote : CodePoint.char '\'' ≠ .char '\\' := by decide
  induction hn : t.length using Nat.strongRecOn generalizing t value behind with
  | _ n ih =>
    subst hn
    rw [List.replicate_succ, List.cons_append]
    rcases insideLiteral?_cases h with
      ⟨rfl, rfl⟩ | ⟨d, rest, value', rfl, _, rfl, hread⟩ | ⟨c, rest, value', rfl, _, _, rfl, hread⟩
    · rw [List.nil_append, List.cons_prefix_cons]
      exact fun hparts => hquote hparts.1
    · rw [List.cons_append, List.cons_prefix_cons]
      rintro ⟨rfl, hprefix⟩
      -- An escaped backslash is one backslash more that is written and not read.
      have hshort : rest.length < rest.length + 1 + 1 := by omega
      refine ih rest.length hshort hread (behind + 1) rfl ?_
      rwa [List.replicate_succ', List.replicate_succ', List.append_assoc, List.append_assoc]
    · rw [List.cons_append, List.cons_prefix_cons]
      rintro ⟨rfl, hprefix⟩
      refine ih rest.length (by simp) hread behind rfl ?_
      rwa [List.replicate_succ', List.append_assoc]

/-- A code point may stand before a verbatim text unless it is a quote or begins an escape. -/
theorem Verbatim.cons {c : CodePoint} {t : Text} (h : Verbatim t) (hc : c ≠ .char '\'')
    (hslash : c = .char '\\' → ∃ d rest, t = d :: rest ∧ d ≠ .char '\\') : Verbatim (c :: t) where
  unquoted := List.not_mem_cons_of_ne_of_not_mem (Ne.symm hc) h.unquoted
  single := by
    rw [List.infix_cons_iff, not_or]
    refine ⟨?_, h.single⟩
    rw [List.cons_prefix_cons]
    rintro ⟨rfl, hprefix⟩
    obtain ⟨d, rest, rfl, hd⟩ := hslash rfl
    exact hd (List.cons_prefix_cons.mp hprefix).1.symm
  last := by
    cases t with
    | nil =>
      rintro ⟨⟩
      obtain ⟨d, rest, hnil, _⟩ := hslash rfl
      cases hnil
    | cons d t =>
      rw [List.getLast?_cons_cons]
      exact h.last

/-- What follows the first code point of a verbatim text is verbatim. -/
theorem Verbatim.of_cons {c : CodePoint} {t : Text} (h : Verbatim (c :: t)) : Verbatim t where
  unquoted := fun hmem => h.unquoted (List.mem_cons_of_mem c hmem)
  single := fun hinside => h.single (hinside.trans (List.suffix_cons c t).isInfix)
  last := by
    intro hlast
    cases t with
    | nil => cases hlast
    | cons d t => exact h.last (by rwa [List.getLast?_cons_cons])

/-- A verbatim text is read as it is. -/
theorem insideLiteral?_of_verbatim {t : Text} (h : Verbatim t) (rest : Text) :
    insideLiteral? (t ++ .char '\'' :: rest) = some (t, rest) := by
  induction t with
  | nil => exact insideLiteral?_close rest
  | cons c t ih =>
    have hc : c ≠ .char '\'' := by
      rintro rfl
      exact h.unquoted (List.mem_cons_self ..)
    rw [List.cons_append, insideLiteral?_self hc, ih h.of_cons]
    · rfl
    · rintro rfl d hd
      cases t with
      | nil => exact absurd rfl h.last
      | cons d' t =>
        obtain rfl : d' = d := Option.some.inj hd
        constructor
        · rintro rfl
          exact h.single ⟨[], t, rfl⟩
        · rintro rfl
          exact h.unquoted (List.mem_cons_of_mem _ (List.mem_cons_self ..))

/-- A text that is read as it is is verbatim. -/
theorem verbatim_of_insideLiteral? {t rest after : Text}
    (h : insideLiteral? (t ++ .char '\'' :: rest) = some (t, after)) : Verbatim t := by
  induction t with
  | nil => exact ⟨List.not_mem_nil, by simp, nofun⟩
  | cons c t ih =>
    rw [List.cons_append] at h
    rcases insideLiteral?_cases h with
      ⟨_, hnil⟩ | ⟨d, rest', value, hsplit, hd, heq, hread⟩ |
        ⟨c', rest', value, hsplit, hc, hself, heq, hread⟩
    · cases hnil
    · obtain ⟨rfl, rfl⟩ := List.cons.inj heq
      obtain ⟨rfl, hsplit⟩ := List.cons.inj hsplit
      -- The escape is a pair of backslashes, and from then on one of them is missing.
      refine absurd ?_ (not_caught_up hread 0)
      rw [List.replicate_one, List.singleton_append, ← hsplit]
      exact ⟨rest, by simp⟩
    · obtain ⟨rfl, rfl⟩ := List.cons.inj heq
      obtain ⟨_, rfl⟩ := List.cons.inj hsplit
      refine (ih hread).cons hc fun hslash => ?_
      cases t with
      | nil => exact absurd rfl (hself hslash _ rfl).2
      | cons d t => exact ⟨d, t, rfl, (hself hslash d rfl).1⟩

/-- Put between quotes as it is, a text is a literal of its own value exactly if it is verbatim;
what is left then is what was put after it. -/
theorem literal?_verbatim_iff {t rest after : Text} :
    literal? (.char '\'' :: (t ++ .char '\'' :: rest)) = some (t, after) ↔
      Verbatim t ∧ after = rest := by
  rw [literal?, if_pos rfl]
  constructor
  · intro h
    have hverbatim := verbatim_of_insideLiteral? h
    rw [insideLiteral?_of_verbatim hverbatim] at h
    exact ⟨hverbatim, (congrArg Prod.snd (Option.some.inj h)).symm⟩
  · rintro ⟨hverbatim, rfl⟩
    exact insideLiteral?_of_verbatim hverbatim after

end Scaffold.Php
