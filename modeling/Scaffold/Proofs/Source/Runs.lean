import Mathlib.Data.List.SplitBy
import Scaffold.Proofs.Naming.Words
import Scaffold.Proofs.Source.Declaration

/-!
# Declarations by runs

A text falls into maximal runs of word code points and runs of others between them (`runs`). A
source text is accepted for a name exactly if a keyword, a run of blanks and the name are three of
its runs, one after another, and no backslash follows (`declares_iff_runs`). The search for a
declaration knows nothing of runs: it asks what stands before a keyword and after a name. The two
views meet at the edges of a run, where the kind of code points changes (`runs_around`,
`runs_append`).
-/

namespace Scaffold.Source

/-- Whether two neighbours belong to the same run: both are part of a word, or neither is. -/
def sameRun (c d : CodePoint) : Bool := c.isWord == d.isWord

/-- The maximal runs of word code points in a text, and the maximal runs of others between them. -/
def runs (t : Text) : List Text := t.splitBy sameRun

/-- A keyword, blanks and the name are runs of the text one after another, and what comes after
them does not begin with a backslash. -/
def DeclaresRun (source name : Text) : Prop :=
  ∃ before keyword gap after, runs source = before ++ keyword :: gap :: name :: after ∧
    keyword ∈ declarationKeywords ∧ gap ≠ [] ∧ (∀ c ∈ gap, c.isBlank = true) ∧
      (List.flatten after).head? ≠ some (.char '\\')

/-! ## Runs -/

/-- Two code points are in different runs if one belongs to words and the other does not. -/
theorem sameRun_false_iff {c d : CodePoint} :
    sameRun c d = false ↔ c.isWord ≠ d.isWord := by
  rw [sameRun, beq_eq_false_iff_ne]

/-- A text of one kind is a single run. -/
theorem runs_of_kind {t : Text} {kind : Bool} (hne : t ≠ []) (h : ∀ c ∈ t, c.isWord = kind) :
    runs t = [t] := by
  refine List.splitBy_of_isChain hne (List.Pairwise.isChain ?_)
  refine List.pairwise_of_forall_mem_list fun c hc d hd => ?_
  rw [sameRun, h c hc, h d hd, beq_self_eq_true]

/-- Where the kind changes, the runs of the two sides are told separately. -/
theorem runs_append {s t : Text}
    (h : ∀ c d, s.getLast? = some c → t.head? = some d → c.isWord ≠ d.isWord) :
    runs (s ++ t) = runs s ++ runs t :=
  List.splitBy_append fun c hc d hd => sameRun_false_iff.mpr (h c d hc hd)

/-- A text is put together from its runs, and the kind changes at both edges of a run. -/
theorem runs_around {t run : Text} {before after : List Text}
    (h : runs t = before ++ run :: after) :
    t = before.flatten ++ run ++ after.flatten ∧
      (∀ c d, before.flatten.getLast? = some c → run.head? = some d → c.isWord ≠ d.isWord) ∧
      (∀ c d, run.getLast? = some c → after.flatten.head? = some d → c.isWord ≠ d.isWord) := by
  have hall : (runs t).flatten = t := List.flatten_splitBy sameRun t
  have hne : ∀ r ∈ runs t, r ≠ [] := fun r hr => List.ne_nil_of_mem_splitBy hr
  have hedges := List.isChain_getLast_head_splitBy sameRun t
  -- What the library says of the last and the first code point of two neighbours.
  have hedge : ∀ {r r' : Text}, (∃ hr hr', sameRun (r.getLast hr) (r'.head hr') = false) →
      ∀ c d, r.getLast? = some c → r'.head? = some d → c.isWord ≠ d.isWord := by
    intro r r' hparts c d hc hd
    obtain ⟨hr, hr', hsame⟩ := hparts
    rw [List.getLast?_eq_some_getLast hr] at hc
    rw [List.head?_eq_some_head hr'] at hd
    cases hc
    cases hd
    exact sameRun_false_iff.mp hsame
  change (runs t).IsChain _ at hedges
  rw [h] at hall hne hedges
  refine ⟨?_, ?_, ?_⟩
  · rw [← hall, List.flatten_append, List.flatten_cons, List.append_assoc]
  · intro c d hc hd
    rcases List.eq_nil_or_concat before with rfl | ⟨init, last, rfl⟩
    · cases hc
    · rw [List.concat_eq_append] at hc hne hedges
      have hlast : last ≠ [] := hne last (by simp)
      rw [List.flatten_append, List.flatten_singleton, List.getLast?_append_of_ne_nil _ hlast] at hc
      have hnext := (List.isChain_append.mp hedges).2.2 last (by simp) run (by simp)
      exact hedge hnext c d hc hd
  · intro c d hc hd
    cases after with
    | nil => cases hd
    | cons next rest =>
      have hnext : next ≠ [] := hne next (by simp)
      rw [List.flatten_cons, List.head?_append_of_ne_nil _ hnext] at hd
      have hlater := (List.isChain_append.mp hedges).2.1
      exact hedge ((List.isChain_cons.mp hlater).1 next rfl) c d hc hd

/-! ## Declarations -/

/-- No run of the table of blanks meets one of the table of words. -/
theorem blank_apart_word :
    ∀ b ∈ Text.Table.blank, ∀ w ∈ Text.Table.word, b.2 < w.1 ∨ w.2 < b.1 := by
  decide +kernel

/-- Blanks are not part of words. -/
theorem isWord_of_isBlank {c : CodePoint} (h : c.isBlank = true) : c.isWord = false := by
  rw [← Bool.not_eq_true]
  intro hword
  unfold CodePoint.isWord at hword
  split at hword
  next =>
    rcases Bool.or_eq_true_iff.mp hword with hletter | hunderscore
    · rw [CodePoint.isBlank_of_isAlphanumeric hletter] at h
      cases h
    · have hcode : c.code = (CodePoint.char '_').code := beq_iff_eq.mp hunderscore
      rw [CodePoint.code_injective hcode] at h
      exact absurd h (by decide)
  next =>
    obtain ⟨b, hb, hin⟩ := List.any_eq_true.mp h
    obtain ⟨w, hw, hin'⟩ := List.any_eq_true.mp hword
    simp only [Bool.and_eq_true, decide_eq_true_eq] at hin hin'
    have hapart := blank_apart_word b hb w hw
    omega

/-- A keyword is a run of word code points. -/
theorem isWord_of_keyword {keyword : Text} (h : keyword ∈ declarationKeywords) :
    keyword ≠ [] ∧ ∀ c ∈ keyword, c.isWord = true := by
  have hall : ∀ k ∈ declarationKeywords, k ≠ [] ∧ ∀ c ∈ k, c.isWord = true := by decide
  exact hall keyword h

/-- The runs of a declaration, between what stands before it and what comes after. -/
theorem runs_of_declares {before keyword gap name after : Text} (hopens : OpensWord before)
    (hkeyword : keyword ∈ declarationKeywords) (hgap : gap ≠ [])
    (hblank : ∀ c ∈ gap, c.isBlank = true) (hname : name ≠ [])
    (hword : ∀ c ∈ name, c.isWord = true) (hends : EndsName after) :
    runs (before ++ (keyword ++ gap ++ name) ++ after) =
      runs before ++ keyword :: gap :: name :: runs after := by
  obtain ⟨hkeywordNe, hkeywordWord⟩ := isWord_of_keyword hkeyword
  have hgapWord : ∀ c ∈ gap, c.isWord = false := fun c hc => isWord_of_isBlank (hblank c hc)
  -- The kind changes from part to part, so the text falls apart there.
  have hsplit : before ++ (keyword ++ gap ++ name) ++ after =
      before ++ (keyword ++ (gap ++ (name ++ after))) := by simp
  rw [hsplit, runs_append, runs_append, runs_append, runs_append,
    runs_of_kind hkeywordNe hkeywordWord, runs_of_kind hgap hgapWord, runs_of_kind hname hword]
  · rfl
  · intro c d hc hd
    rw [hword c (List.mem_of_getLast? hc), (hends d hd).1]
    exact nofun
  · intro c d hc hd
    rw [List.head?_append_of_ne_nil _ hname] at hd
    rw [hgapWord c (List.mem_of_getLast? hc), hword d (List.mem_of_head? hd)]
    exact nofun
  · intro c d hc hd
    rw [List.head?_append_of_ne_nil _ hgap] at hd
    rw [hkeywordWord c (List.mem_of_getLast? hc), hgapWord d (List.mem_of_head? hd)]
    exact nofun
  · intro c d hc hd
    rw [List.head?_append_of_ne_nil _ hkeywordNe] at hd
    rw [hopens c hc, hkeywordWord d (List.mem_of_head? hd)]
    exact nofun

/-- A source text is accepted for a name exactly if its runs declare it. -/
theorem declares_iff_runs {source name : Text} (hname : name ≠ [])
    (hword : ∀ c ∈ name, c.isWord = true) :
    declares source name = true ↔ DeclaresRun source name := by
  rw [declares_iff hname]
  constructor
  · intro hparts
    obtain ⟨before, head, after, rfl, hopens, ⟨keyword, hkeyword, gap, hgap, hblank, rfl⟩, hends⟩ :=
      hparts
    refine ⟨runs before, keyword, gap, runs after,
      runs_of_declares hopens hkeyword hgap hblank hname hword hends, hkeyword, hgap, hblank, ?_⟩
    rw [runs, List.flatten_splitBy]
    exact fun hslash => (hends _ hslash).2 rfl
  · -- Runs next to one another are of different kinds, which tells what may stand around the
    -- keyword and the name.
    intro hparts
    obtain ⟨before, keyword, gap, after, hruns, hkeyword, hgap, hblank, hslash⟩ := hparts
    obtain ⟨hkeywordNe, hkeywordWord⟩ := isWord_of_keyword hkeyword
    have hruns' : runs source = (before ++ [keyword, gap]) ++ name :: after := by
      rw [hruns, List.append_assoc]
      rfl
    obtain ⟨hsource, hbefore, _⟩ := runs_around hruns
    obtain ⟨_, _, hafter⟩ := runs_around hruns'
    refine ⟨before.flatten, keyword ++ gap ++ name, after.flatten, ?_, ?_,
      ⟨keyword, hkeyword, gap, hgap, hblank, rfl⟩, ?_⟩
    · rw [hsource]
      simp
    · intro c hc
      have hkind := hbefore c _ hc (List.head?_eq_some_head hkeywordNe)
      rw [hkeywordWord _ (List.head_mem hkeywordNe)] at hkind
      exact Bool.eq_false_iff.mpr hkind
    · intro c hc
      have hkind := hafter _ c (List.getLast?_eq_some_getLast hname) hc
      rw [hword _ (List.getLast_mem hname)] at hkind
      refine ⟨Bool.eq_false_iff.mpr hkind.symm, ?_⟩
      rintro rfl
      exact hslash hc

/-- Blanks of any kind may stand between keyword and name; a longer word or a namespace is another
name. -/
theorem declares_iff_runs_user :
    DeclaresRun "<?php\nfinal class Users {}\nclass\t\n User{}" "User" ∧
      ¬ DeclaresRun "class UserRequest {} subclass User {} class User\\Profile {}" "User" := by
  have hword : ∀ c ∈ Text.ofString "User", c.isWord = true := by decide
  have hname : Text.ofString "User" ≠ [] := by decide
  exact ⟨(declares_iff_runs hname hword).mp (by decide +kernel),
    fun h => absurd ((declares_iff_runs hname hword).mpr h) (by decide +kernel)⟩

end Scaffold.Source
