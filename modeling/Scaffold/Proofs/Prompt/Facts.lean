import Scaffold.Prompt
import Scaffold.Proofs.Json.Lines

/-!
# The facts in a prompt

A prompt closes with the facts that are derived for the table, each as JSON on a line of its own.
What stands before them are names and types as the catalog gives them and the opening that a custom
artifact brings, and any of these may hold lines that look like facts. But nothing of it comes after
the facts (`build_eq_closing`), so their lines are told from the end of the prompt, and the facts
from their lines: equal prompts tell equal facts (`facts_of_build`).

A fact is told by what is written for it only if its texts are whole code points (`Whole`): two
halves of a surrogate pair are written with the same escapes as the code point they make together.
`Tells` says of a way of writing that it tells the facts of which some condition holds.

The line of the unique columns is left out where there are none, so the number of lines at the end
tells whether there are any.
-/

namespace Scaffold.Prompt

open Json (Tells Whole)
open Schema (Metadata)

/-- No surrogate stands in the facts that are derived for a table. -/
structure WholeFacts (m : Metadata) : Prop where
  fillable : ∀ t ∈ m.fillable, Whole t
  hidden : ∀ t ∈ m.hidden, Whole t
  casts : ∀ f ∈ m.casts, Whole f.1 ∧ Whole f.2
  uniqueFields : ∀ t ∈ m.uniqueFields, Whole t

/-! ## The lines of the facts -/

/-- A line that tells a fact. -/
def factLine {α : Type} (label : Text) (write : α → Text) (fact : α) : Text :=
  Text.concat [label, write fact]

/-- A line with a label tells the fact that is written on it. -/
theorem tells_factLine {α : Type} {label : Text} {write : α → Text} {p : α → Prop}
    (hlabel : ∀ c ∈ label, Json.Visible c) (h : Tells write p) : Tells (factLine label write) p := by
  have hline : factLine label write = fun a => label ++ write a := by
    funext a
    simp [factLine, Text.concat]
  rw [hline]
  exact h.after hlabel

/-- A list of names is told by its line. -/
theorem tells_names {label : Text} (hlabel : ∀ c ∈ label, Json.Visible c) :
    Tells (factLine label textList) (fun ts => ∀ t ∈ ts, Whole t) :=
  tells_factLine hlabel Json.tells_texts

/-- A map of names is told by its line. -/
theorem tells_pairs {label : Text} (hlabel : ∀ c ∈ label, Json.Visible c) :
    Tells (factLine label textMap) (fun pairs => ∀ f ∈ pairs, Whole f.1 ∧ Whole f.2) :=
  tells_factLine hlabel Json.tells_map

/-- The lines that a prompt closes with. That of the unique columns is left out if there are none. -/
def closing (m : Metadata) : List Text :=
  [factLine "Fillable: " textList m.fillable,
   factLine "Hidden: " textList m.hidden,
   factLine "Casts: " textMap m.casts] ++
    if m.uniqueFields.isEmpty then [] else [factLine "Unique: " textList m.uniqueFields]

/-- The lines before them, which tell the table as the catalog does. -/
def reported (m : Metadata) : List Text :=
  ["Schema:",
   Text.join "; " (m.columns.map column),
   "",
   Text.concat ["Relations: ", relations m.relations]]

/-- What a prompt begins with. -/
def preface (namespaces : Ordered Text) (a : Artifact) (m : Metadata) : List Text :=
  let classNamespace := Stub.declaredNamespace namespaces a ""
  [introduction a classNamespace,
   "",
   target a m classNamespace,
   "",
   "Requirements:",
   Text.join "\n" (requirements namespaces a m),
   "",
   "Conventions:",
   conventions]

/-- After those lines comes the form of the answer, which is the same in all prompts. -/
theorem build_eq_closing (namespaces : Ordered Text) (a : Artifact) (m : Metadata) :
    build namespaces a m = Text.join "\n" (preface namespaces a m ++ reported m) ++
      (closing m).flatMap (.char '\n' :: ·) ++ ("\n\n" ++ outputContract) := by
  have hpreface : preface namespaces a m ≠ [] := List.cons_ne_nil _ _
  have hreported : reported m ≠ [] := List.cons_ne_nil _ _
  have hbuild : build namespaces a m =
      Text.join "\n" (preface namespaces a m ++ ([facts m] ++ [[], outputContract])) := rfl
  have hfacts : facts m = Text.join "\n" (reported m ++ closing m) := rfl
  rw [hbuild, Text.join_append "\n" hpreface (by simp), Text.join_append "\n" (by simp) (by simp),
    Text.join_append "\n" hpreface hreported, Text.join, hfacts,
    Text.join_append_flatMap "\n" hreported]
  simp only [List.append_assoc]
  rfl

/-! ## Equal prompts -/

section

variable {namespaces namespaces' : Ordered Text} {a a' : Artifact} {m m' : Metadata}

/-- No fact is broken into lines. -/
theorem newline_not_mem_closing (h : WholeFacts m) : ∀ l ∈ closing m, CodePoint.char '\n' ∉ l := by
  have hline : ∀ {α : Type} {write : α → Text} {p : α → Prop} {fact : α}, Tells write p → p fact →
      CodePoint.char '\n' ∉ write fact :=
    fun htells hfact hmem => absurd (htells.visible hfact hmem) (by decide)
  unfold closing
  rw [List.forall_mem_append, List.forall_mem_cons, List.forall_mem_cons,
    List.forall_mem_singleton]
  refine ⟨⟨hline (tells_names (by decide)) h.fillable, hline (tells_names (by decide)) h.hidden,
    hline (tells_pairs (by decide)) h.casts⟩, ?_⟩
  split
  next => nofun
  next => exact List.forall_mem_singleton.mpr (hline (tells_names (by decide)) h.uniqueFields)

/-- A text that closes with the line of the unique columns does not close without it. -/
theorem closing_mismatch (hm : WholeFacts m) (hm' : WholeFacts m')
    (hunique : m.uniqueFields.isEmpty = false) (hnone : m'.uniqueFields.isEmpty = true)
    (s s' : Text) :
    s ++ (closing m).flatMap (.char '\n' :: ·) ≠ s' ++ (closing m').flatMap (.char '\n' :: ·) := by
  intro heq
  have hlines := newline_not_mem_closing hm
  have hlines' := newline_not_mem_closing hm'
  unfold closing at heq hlines hlines'
  rw [hunique, if_neg Bool.false_ne_true] at heq hlines
  rw [hnone, if_pos rfl] at heq hlines'
  -- Without the first of the four lines there are three on both sides, under other labels.
  rw [List.cons_append, List.flatMap_cons, ← List.append_assoc] at heq
  have hthree := (Text.lines_inj (by rfl) (List.forall_mem_cons.mp hlines).2 hlines' heq).2
  cases hthree

/-- Equal prompts close with equal lines. -/
theorem closing_of_build (hm : WholeFacts m) (hm' : WholeFacts m')
    (heq : build namespaces a m = build namespaces' a' m') : closing m = closing m' := by
  rw [build_eq_closing, build_eq_closing] at heq
  have hclosing := List.append_cancel_right heq
  cases hunique : m.uniqueFields.isEmpty <;> cases hunique' : m'.uniqueFields.isEmpty
  case true.false => exact absurd hclosing.symm (closing_mismatch hm' hm hunique' hunique _ _)
  case false.true => exact absurd hclosing (closing_mismatch hm hm' hunique hunique' _ _)
  all_goals
    have hlength : (closing m).length = (closing m').length := by
      unfold closing
      rw [hunique, hunique']
      rfl
    exact (Text.lines_inj hlength (newline_not_mem_closing hm) (newline_not_mem_closing hm')
      hclosing).2

/-- A prompt tells the facts: those of equal prompts are equal, whatever artifacts they are for and
whatever else is known about the tables. -/
theorem facts_of_build (hm : WholeFacts m) (hm' : WholeFacts m')
    (heq : build namespaces a m = build namespaces' a' m') :
    m.fillable = m'.fillable ∧ m.hidden = m'.hidden ∧ m.casts = m'.casts ∧
      m.uniqueFields = m'.uniqueFields := by
  have hclosing := closing_of_build hm hm' heq
  unfold closing at hclosing
  simp only [List.cons_append, List.nil_append, List.cons.injEq] at hclosing
  obtain ⟨hfillable, hhidden, hcasts, hunique⟩ := hclosing
  refine ⟨(tells_names (by decide)).inj hm.fillable hm'.fillable hfillable,
    (tells_names (by decide)).inj hm.hidden hm'.hidden hhidden,
    (tells_pairs (by decide)).inj hm.casts hm'.casts hcasts, ?_⟩
  split at hunique
  next hnone =>
    split at hunique
    next hnone' => rw [List.isEmpty_iff.mp hnone, List.isEmpty_iff.mp hnone']
    next => cases hunique
  next =>
    split at hunique
    next => cases hunique
    next =>
      exact (tells_names (by decide)).inj hm.uniqueFields hm'.uniqueFields
        (List.singleton_inj.mp hunique)

end

/-- The opening of a custom artifact is trimmed, and its prompt is silent about the rules of columns:
prompts can be equal for unequal artifacts and tables. -/
theorem facts_of_build_policy :
    let a : Artifact :=
      { kind := .custom, name := "policy", className := "UserPolicy",
        target := .ofText "app/Policies/UserPolicy.php", prompt := some "Write a policy." }
    let m : Metadata :=
      { tableName := "users", className := "User", fillable := ["näme", "age"],
        hidden := ["password"], casts := [("age", "integer")], uniqueFields := ["näme"] }
    let a' : Artifact := { a with prompt := some "Write a policy.\n" }
    let m' : Metadata := { m with validationRules := [("age", ["required"])] }
    (WholeFacts m ∧ WholeFacts m' ∧ build [] a m = build [] a' m') ∧
      m.fillable = m'.fillable ∧ m.hidden = m'.hidden ∧ m.casts = m'.casts ∧
        m.uniqueFields = m'.uniqueFields := by
  intro a m a' m'
  have hm : WholeFacts m := ⟨by decide, by decide, by decide, by decide⟩
  have hm' : WholeFacts m' := ⟨by decide, by decide, by decide, by decide⟩
  have heq : build [] a m = build [] a' m' := rfl
  exact ⟨⟨hm, hm', heq⟩, facts_of_build hm hm' heq⟩

end Scaffold.Prompt
