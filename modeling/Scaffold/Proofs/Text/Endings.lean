import Scaffold.Proofs.Text.Search

/-!
# Endings

A text ends with another exactly if the other is a suffix of it (`endsWith_iff`). Rules about words
go by lists of endings, and words are built by putting something at their end. Whether such a word
has one of some endings, or is one of some words, is told by what is left of the endings and the
words without it (`endsIn_append_iff`, `append_mem_iff`).
-/

namespace Scaffold.Text

/-- An ending can be taken off exactly if the text is something before it. -/
theorem dropEnd?_eq_some_iff {tail t rest : Text} :
    dropEnd? tail t = some rest ↔ t = rest ++ tail := by
  unfold dropEnd?
  rw [Option.map_eq_some_iff]
  constructor
  · intro hparts
    obtain ⟨reversed, hreversed, rfl⟩ := hparts
    have ht := congrArg List.reverse (eq_append_of_dropStart? hreversed)
    rwa [List.reverse_reverse, List.reverse_append, List.reverse_reverse] at ht
  · rintro rfl
    refine ⟨rest.reverse, ?_, List.reverse_reverse rest⟩
    rw [List.reverse_append, dropStart?_append]

/-- A text that does not end with a line feed is left as it is. -/
theorem dropFinalLineFeed_of_last {t : Text} (h : t.getLast? ≠ some (.char '\n')) :
    dropFinalLineFeed t = t := by
  unfold dropFinalLineFeed
  cases hdrop : dropEnd? ['\n'] t with
  | none => rfl
  | some rest =>
    obtain rfl := dropEnd?_eq_some_iff.mp hdrop
    exact absurd List.getLast?_concat h

/-- A text ends with another exactly if the other is a suffix of it. -/
theorem endsWith_iff {t tail : Text} : endsWith t tail = true ↔ tail <:+ t := by
  rw [endsWith, Option.isSome_iff_exists]
  constructor
  · intro hparts
    obtain ⟨rest, h⟩ := hparts
    exact ⟨rest, (dropEnd?_eq_some_iff.mp h).symm⟩
  · intro hparts
    obtain ⟨rest, rfl⟩ := hparts
    exact ⟨rest, dropEnd?_eq_some_iff.mpr rfl⟩

/-- Taking off as many code points as were put at the end undoes it. -/
theorem dropLast_append (t tail : Text) : dropLast (t ++ tail) tail.length = t := by
  unfold dropLast
  rw [List.length_append, Nat.add_sub_cancel, List.take_left]

theorem length_dropLast (t : Text) (n : Nat) : (dropLast t n).length = t.length - n := by
  unfold dropLast
  rw [List.length_take]
  exact Nat.min_eq_left (Nat.sub_le ..)

/-- The text ends in one of some endings. -/
def EndsIn (t : Text) (endings : List Text) : Prop := ∃ e ∈ endings, e <:+ t

/-- A search through endings finds out whether a text has one of them. -/
theorem any_endsWith_iff {t : Text} {endings : List Text} :
    endings.any (endsWith t) = true ↔ EndsIn t endings := by
  rw [List.any_eq_true]
  exact exists_congr fun e => and_congr_right fun _ => endsWith_iff

instance (t : Text) (endings : List Text) : Decidable (EndsIn t endings) :=
  decidable_of_iff _ any_endsWith_iff

theorem endsIn_nil (t : Text) : ¬ EndsIn t [] := fun ⟨_, h, _⟩ => nomatch h

/-- A text has an ending from two lists exactly if it has one from either. -/
theorem endsIn_append {t : Text} {endings endings' : List Text} :
    EndsIn t (endings ++ endings') ↔ EndsIn t endings ∨ EndsIn t endings' := by
  unfold EndsIn
  simp only [List.mem_append, or_and_right, exists_or]

/-- More endings do no harm. -/
theorem EndsIn.mono {t : Text} {endings endings' : List Text} (h : EndsIn t endings)
    (hsub : endings ⊆ endings') : EndsIn t endings' :=
  let ⟨e, he, hends⟩ := h
  ⟨e, hsub he, hends⟩

/-- The order of the endings makes no difference. -/
theorem endsIn_perm {t : Text} {endings endings' : List Text} (h : endings.Perm endings') :
    EndsIn t endings ↔ EndsIn t endings' :=
  ⟨fun hends => hends.mono h.subset, fun hends => hends.mono h.symm.subset⟩

/-- The endings of an ending are endings of the text. -/
theorem EndsIn.trans {t : Text} {endings endings' : List Text} (h : EndsIn t endings)
    (hall : ∀ e ∈ endings, EndsIn e endings') : EndsIn t endings' := by
  obtain ⟨e, he, hends⟩ := h
  obtain ⟨e', he', hends'⟩ := hall e he
  exact ⟨e', he', hends'.trans hends⟩

/-- A text has a single ending exactly if it is something with that ending. -/
theorem endsIn_singleton_iff {t tail : Text} : EndsIn t [tail] ↔ ∃ rest, t = rest ++ tail := by
  constructor
  · intro h
    obtain ⟨e, he, rest, rfl⟩ := h
    obtain rfl := List.mem_singleton.mp he
    exact ⟨rest, rfl⟩
  · intro hparts
    obtain ⟨rest, rfl⟩ := hparts
    exact ⟨tail, List.mem_singleton_self _, rest, rfl⟩

/-- What is left of some texts that end with a tail, without the tail. -/
def without (tail : Text) (ts : List Text) : List Text := ts.filterMap (dropEnd? tail)

/-- A text with a tail has one of some endings if it has what is left of one before the tail. No
ending may be shorter than the tail. -/
theorem endsIn_append_iff {t tail : Text} {endings : List Text}
    (h : ∀ e ∈ endings, tail.length ≤ e.length) :
    EndsIn (t ++ tail) endings ↔ EndsIn t (without tail endings) := by
  unfold EndsIn without
  simp only [List.mem_filterMap, dropEnd?_eq_some_iff]
  constructor
  · intro hparts
    obtain ⟨e, he, hends⟩ := hparts
    obtain ⟨rest, rfl⟩ :=
      List.suffix_of_suffix_length_le (List.suffix_append t tail) hends (h e he)
    exact ⟨rest, ⟨_, he, rfl⟩, List.suffix_append_self_iff.mp hends⟩
  · intro hparts
    obtain ⟨rest, ⟨_, he, rfl⟩, hends⟩ := hparts
    exact ⟨_, he, List.suffix_append_self_iff.mpr hends⟩

/-- A text with a tail is one of some texts if it is what is left of one before the tail. -/
theorem append_mem_iff {t tail : Text} {ts : List Text} : t ++ tail ∈ ts ↔ t ∈ without tail ts := by
  unfold without
  simp only [List.mem_filterMap, dropEnd?_eq_some_iff]
  constructor
  · intro h
    exact ⟨_, h, rfl⟩
  · intro hparts
    obtain ⟨_, h, rfl⟩ := hparts
    exact h

/-- No ending of the one list ends in one of the other, or the other way round. -/
def Apart (endings endings' : List Text) : Prop :=
  ∀ e ∈ endings, ∀ e' ∈ endings', endsWith e e' = false ∧ endsWith e' e = false

instance (endings endings' : List Text) : Decidable (Apart endings endings') :=
  inferInstanceAs (Decidable (∀ e ∈ endings, ∀ e' ∈ endings',
    endsWith e e' = false ∧ endsWith e' e = false))

/-- Of two endings of a text the longer ends in the shorter, so that a text has none that is apart
from its own. -/
theorem EndsIn.apart {t : Text} {endings endings' : List Text} (h : EndsIn t endings)
    (hapart : Apart endings endings') : ¬ EndsIn t endings' := by
  intro h'
  obtain ⟨e, he, hends⟩ := h
  obtain ⟨e', he', hends'⟩ := h'
  obtain ⟨hnot, hnot'⟩ := hapart e he e' he'
  rcases List.suffix_or_suffix_of_suffix hends hends' with hsuffix | hsuffix
  · rw [endsWith_iff.mpr hsuffix] at hnot'
    cases hnot'
  · rw [endsWith_iff.mpr hsuffix] at hnot
    cases hnot

end Scaffold.Text
