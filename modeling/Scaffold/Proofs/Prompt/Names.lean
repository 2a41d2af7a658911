import Scaffold.Prompt
import Scaffold.Proofs.Naming.Conventions
import Scaffold.Proofs.Artifact.Standard

/-!
# The names in a prompt

A prompt names its artifact, the model and the table in five lines. A sixth points out a table that
is not called what its class suggests, and it is there for no other table (`build_withNames_iff`).
A table that is named by the plural of a name that comes back from it has the class, the route
parameter and the conventional table that this name gives, so its prompts are without that line
(`build_conventional`).
-/

namespace Scaffold.Prompt

open Schema (Metadata)

/-- The lines that name the artifact, its model and its table. -/
def names (namespaces : Ordered Text) (a : Artifact) (m : Metadata) : List Text :=
  ["Target:",
   Text.concat ["- Class: ", a.className],
   Text.concat ["- Namespace: ", Stub.declaredNamespace namespaces a ""],
   Text.concat ["- Model: ", m.className],
   Text.concat ["- Table: ", m.tableName]]

/-- What the line begins with that points out a table. -/
def remarkLabel : Text := "- Conventional table name: "

/-- The line that points out a table. -/
def remark (m : Metadata) : Text := Text.concat
  [remarkLabel, Naming.tableOfClass m.className, " (the real table name wins)"]

/-- The prompt for an artifact with some lines in the place of its names. -/
def withNames (namespaces : Ordered Text) (a : Artifact) (m : Metadata) (named : List Text) :
    Text :=
  Text.join "\n"
    [introduction a (Stub.declaredNamespace namespaces a ""),
     "",
     Text.join "\n" named,
     "",
     "Requirements:",
     Text.join "\n" (requirements namespaces a m),
     "",
     "Conventions:",
     conventions,
     facts m,
     "",
     outputContract]

section

variable (namespaces : Ordered Text) (a : Artifact) (m : Metadata)

/-- A prompt names its artifact in the five lines, and a sixth points out a table that is not called
what its class suggests. -/
theorem build_eq_withNames :
    build namespaces a m = withNames namespaces a m (names namespaces a m ++
      if Naming.tableOfClass m.className = m.tableName then [] else [remark m]) := rfl

/-- The line is none of the five. -/
theorem names_unremarked : ∀ line ∈ names namespaces a m, ¬ remarkLabel <+: line := by
  simp [names, remarkLabel, Text.concat, Text.ofString]

/-- Other lines make another prompt. -/
theorem withNames_inj {named named' : List Text} :
    withNames namespaces a m named = withNames namespaces a m named' ↔
      Text.join "\n" named = Text.join "\n" named' := by
  unfold withNames
  simp only [Text.join_cons_cons, List.append_cancel_left_eq, List.append_cancel_right_eq]

/-- The sixth line is there for no table but those that are not called what their class suggests. -/
theorem build_withNames_iff :
    build namespaces a m = withNames namespaces a m (names namespaces a m) ↔
      Naming.tableOfClass m.className = m.tableName := by
  rw [build_eq_withNames]
  by_cases h : Naming.tableOfClass m.className = m.tableName
  · simp [h]
  · have hnames : names namespaces a m ≠ [] := List.cons_ne_nil _ _
    have hmore := Text.join_append "\n" hnames (List.cons_ne_nil (remark m) [])
    rw [if_neg h, withNames_inj, hmore, List.append_assoc]
    refine iff_of_false (fun hsame => ?_) h
    cases List.append_right_eq_self.mp hsame

end

/-! ## Tables that are named by the convention -/

/-- A name in snake case of words of small letters, at least two each, that comes back from its
plural: the table of that name has its class and its route parameter, the class has that table, and
the prompts of the table are those without the sixth line. -/
theorem build_conventional {ws : List Text} {w : Text} (h : ∀ v ∈ ws ++ [w], Naming.Long v)
    (hback : Naming.singularize (Naming.pluralize w) = w) :
    let name := Text.join "_" (ws ++ [w])
    Naming.classOfTable (Naming.pluralize name) = Naming.studly name ∧
      Naming.routeParameter (Naming.pluralize name) = name ∧
      Naming.tableOfClass (Naming.studly name) = Naming.pluralize name ∧
      ∀ namespaces a m, m.tableName = Naming.pluralize name →
        m.className = Naming.classOfTable m.tableName →
        build namespaces a m = withNames namespaces a m (names namespaces a m) ∧
          ∀ line ∈ names namespaces a m, ¬ remarkLabel <+: line := by
  have hclass := Naming.classOfTable_pluralize h hback
  have htable := Naming.tableOfClass_studly h
  refine ⟨hclass, Naming.routeParameter_pluralize h hback, htable, ?_⟩
  intro namespaces a m hname hmodel
  refine ⟨(build_withNames_iff namespaces a m).mpr ?_, names_unremarked namespaces a m⟩
  rw [hmodel, hname, hclass, htable]

/-- The table `blog_categories` has the class `BlogCategory`, and no prompt points it out. -/
theorem build_conventional_categories :
    let m : Metadata := { tableName := "blog_categories", className := "BlogCategory" }
    let a := Artifact.standard {} m.className .model
    (∀ v ∈ [Text.ofString "blog"] ++ [Text.ofString "category"], Naming.Long v) ∧
      Naming.singularize (Naming.pluralize "category") = "category" ∧
      Naming.classOfTable "blog_categories" = "BlogCategory" ∧
      Naming.routeParameter "blog_categories" = "blog_category" ∧
      Naming.tableOfClass "BlogCategory" = "blog_categories" ∧
      build [] a m = withNames [] a m (names [] a m) ∧
      ∀ line ∈ names [] a m, ¬ remarkLabel <+: line := by
  intro m a
  have hlong : ∀ v ∈ [Text.ofString "blog"] ++ [Text.ofString "category"], Naming.Long v := by
    decide
  have hback : Naming.singularize (Naming.pluralize "category") = "category" := by decide
  have hname : Text.join "_" ([Text.ofString "blog"] ++ [Text.ofString "category"]) =
      "blog_category" := rfl
  have hplural : Naming.pluralize "blog_category" = "blog_categories" := by decide
  have hstudly : Naming.studly "blog_category" = "BlogCategory" := by decide
  have hall := build_conventional hlong hback
  simp only [hname, hplural, hstudly] at hall
  obtain ⟨hclass, hroute, htable, hprompt⟩ := hall
  exact ⟨hlong, hback, hclass, hroute, htable, hprompt [] a m rfl hclass.symm⟩

end Scaffold.Prompt
