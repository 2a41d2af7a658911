import Scaffold.Proofs.Naming.Camel
import Scaffold.Proofs.Php.Resources

/-!
# The methods of relations

A relation is declared as a method of the model and shown as an entry of the resource, both under
one name: the camel case of the column without `_id`, or of the related class if the column does
not end in `_id` (`methodName`). Nothing in the generator keeps two of the names apart.

What is declared is read back from the text. `methods?` reads declarations with their comments and
bodies, one after another and with nothing else between or after them, and gives of each the name,
the related class and the two columns; on the text for some relations it gives one method for each
relation, in order (`methods?_relationMethods`). The entries of the resource are read as elsewhere
(`shownEntries?`), and their keys are the same names.

Two names can be compared in two ways: as they are spelled, which is how the keys of an array are
compared, and without regard to case (`uncased`), which is how a class finds its methods. Either
way names are the same exactly for relations that clash (`key_methodName_eq_iff`): because two
stems of columns have one form, because two classes have one camel case, or because a stem has that
of a class. What the form is depends on the comparison. It is the tidy form for spelling
(`Naming.camel_eq_iff`) and the form without underscores otherwise (`Naming.uncased_camel_eq_iff`);
so `foo_bar_id` and `foobar_id` lead to methods that are spelled differently and are one method.

So the methods, and the keys, are distinct exactly if no two of the relations clash
(`methodNames_distinct_iff`). The singular of the referenced table may be any text here; where it is
in snake case, classes need not be spoken of, and all is told by what the relations are named after
(`namesake`).
-/

namespace Scaffold.Php

open Naming (bare camel tidy uncased Snake IsTidy)
open Schema (Relation referenceSuffix)

/-! ## Names -/

/-- What a column is named after, if it ends in `_id`. -/
def stem? (column : Text) : Option Text :=
  (Text.dropEnd? referenceSuffix column).filter (!·.isEmpty)

/-- The stem of a column is what stands before its ending, if that is anything. -/
theorem stem?_eq_some_iff {column stem : Text} :
    stem? column = some stem ↔ column = stem ++ referenceSuffix ∧ stem ≠ [] := by
  unfold stem?
  rw [Option.filter_eq_some_iff, Text.dropEnd?_eq_some_iff]
  simp

/-- A method is named after the stem of its column. -/
theorem methodName_of_stem {r : Relation} {stem : Text} (h : stem? r.localColumn = some stem) :
    methodName r = camel stem := by
  obtain ⟨hcolumn, hne⟩ := stem?_eq_some_iff.mp h
  unfold methodName
  rw [Text.dropEnd?_eq_some_iff.mpr hcolumn]
  cases stem with
  | nil => exact absurd rfl hne
  | cons c rest => rfl

/-- Without a stem it is named after the related class. -/
theorem methodName_of_class {r : Relation} (h : stem? r.localColumn = none) :
    methodName r = camel (relatedClass r) := by
  unfold methodName
  split
  next first rest hstem => simp [stem?, hstem] at h
  next => rfl

/-- The stem of a snake-case column is in snake case. -/
theorem snake_stem {column stem : Text} (h : Snake column) (hstem : stem? column = some stem) :
    Snake stem := by
  obtain ⟨rfl, _⟩ := stem?_eq_some_iff.mp hstem
  exact fun c hc => h c (List.mem_append_left _ hc)

/-- Two relations whose methods are named alike. Names are compared by a key, and stems by a form
that tells the key of their camel case. -/
inductive Clash (key form : Text → Text) (r r' : Relation) : Prop where
  | stems {s s' : Text} (h : stem? r.localColumn = some s) (h' : stem? r'.localColumn = some s')
    (hsame : form s = form s')
  | classes (h : stem? r.localColumn = none) (h' : stem? r'.localColumn = none)
    (hsame : key (camel (relatedClass r)) = key (camel (relatedClass r')))
  | stemWithClass {s : Text} (h : stem? r.localColumn = some s)
    (h' : stem? r'.localColumn = none) (hsame : key (camel s) = key (camel (relatedClass r')))
  | classWithStem {s' : Text} (h : stem? r.localColumn = none)
    (h' : stem? r'.localColumn = some s') (hsame : key (camel (relatedClass r)) = key (camel s'))

section

variable (key form : Text → Text)
  (hform : ∀ {s t : Text}, Snake s → Snake t → (key (camel s) = key (camel t) ↔ form s = form t))
  {r r' : Relation}

include hform

/-- The methods of two relations are named alike exactly if the relations clash. -/
theorem key_methodName_eq_iff (h : Snake r.localColumn) (h' : Snake r'.localColumn) :
    key (methodName r) = key (methodName r') ↔ Clash key form r r' := by
  constructor
  · -- Either name comes from a stem or from a class, which makes the four cases of a clash.
    intro hsame
    cases hstem : stem? r.localColumn with
    | none =>
      rw [methodName_of_class hstem] at hsame
      cases hstem' : stem? r'.localColumn with
      | none =>
        rw [methodName_of_class hstem'] at hsame
        exact .classes hstem hstem' hsame
      | some s' =>
        rw [methodName_of_stem hstem'] at hsame
        exact .classWithStem hstem hstem' hsame
    | some s =>
      rw [methodName_of_stem hstem] at hsame
      cases hstem' : stem? r'.localColumn with
      | none =>
        rw [methodName_of_class hstem'] at hsame
        exact .stemWithClass hstem hstem' hsame
      | some s' =>
        rw [methodName_of_stem hstem',
          hform (snake_stem h hstem) (snake_stem h' hstem')] at hsame
        exact .stems hstem hstem' hsame
  · intro hclash
    cases hclash with
    | stems hstem hstem' hsame =>
      rw [methodName_of_stem hstem, methodName_of_stem hstem']
      exact (hform (snake_stem h hstem) (snake_stem h' hstem')).mpr hsame
    | classes hstem hstem' hsame =>
      rw [methodName_of_class hstem, methodName_of_class hstem', hsame]
    | stemWithClass hstem hstem' hsame =>
      rw [methodName_of_stem hstem, methodName_of_class hstem', hsame]
    | classWithStem hstem hstem' hsame =>
      rw [methodName_of_class hstem, methodName_of_stem hstem', hsame]

/-- So the names in a list are distinct exactly if no two of its relations clash. -/
theorem nodup_keys_iff {rs : List Relation} (h : ∀ r ∈ rs, Snake r.localColumn) :
    (rs.map fun r => key (methodName r)).Nodup ↔ rs.Pairwise fun r r' => ¬ Clash key form r r' := by
  rw [List.Nodup, List.pairwise_map]
  exact List.Pairwise.iff_of_mem fun hr hr' =>
    not_congr (key_methodName_eq_iff key form hform (h _ hr) (h _ hr'))

end

/-- What the method of a relation is named after: the stem of the column, or one row of the table
that it refers to. -/
def namesake (r : Relation) : Text :=
  (stem? r.localColumn).getD (Naming.singularize r.referencedTable)

/-- The method of a relation is the camel case of what it is named after. -/
theorem methodName_of_namesake {r : Relation} (h : Snake (namesake r)) :
    methodName r = camel (namesake r) := by
  unfold namesake at h ⊢
  cases hstem : stem? r.localColumn with
  | none =>
    rw [hstem, Option.getD_none] at h
    rw [methodName_of_class hstem, Option.getD_none]
    exact Naming.camel_studly h
  | some stem => rw [methodName_of_stem hstem, Option.getD_some]

/-- Where all relations are named after names in snake case, the methods are distinct exactly if the
forms of those names are. -/
theorem nodup_keys_iff_forms (key form : Text → Text)
    (hform : ∀ {s t : Text}, Snake s → Snake t → (key (camel s) = key (camel t) ↔ form s = form t))
    {rs : List Relation} (h : ∀ r ∈ rs, Snake (namesake r)) :
    (rs.map fun r => key (methodName r)).Nodup ↔ (rs.map fun r => form (namesake r)).Nodup := by
  unfold List.Nodup
  rw [List.pairwise_map, List.pairwise_map]
  refine List.Pairwise.iff_of_mem fun hr hr' => not_congr ?_
  rw [methodName_of_namesake (h _ hr), methodName_of_namesake (h _ hr')]
  exact hform (h _ hr) (h _ hr')

/-- Tidy names before `_id` are told apart by the columns. -/
theorem nodup_namesakes {rs : List Relation} (hcolumns : (rs.map Relation.localColumn).Nodup)
    (h : ∀ r ∈ rs, ∃ stem, r.localColumn = stem ++ referenceSuffix ∧ IsTidy stem) :
    (rs.map fun r => tidy (namesake r)).Nodup := by
  rw [List.Nodup, List.pairwise_map] at hcolumns ⊢
  refine hcolumns.imp_of_mem fun {r r'} hr hr' hne hsame => hne ?_
  have hnamesake : ∀ r ∈ rs, r.localColumn = tidy (namesake r) ++ referenceSuffix := by
    intro r hr
    obtain ⟨stem, hcolumn, htidy⟩ := h r hr
    have hstem := stem?_eq_some_iff.mpr ⟨hcolumn, htidy.ne_nil⟩
    rw [namesake, hstem, Option.getD_some, htidy.tidy_eq, hcolumn]
  rw [hnamesake r hr, hnamesake r' hr', hsame]

/-! ## Declared methods -/

/-- A method that leads to a related row. -/
structure Method where
  name : Text
  /-- The class of the related row. -/
  related : Text
  localColumn : Text
  referencedColumn : Text
  deriving DecidableEq

/-- The method of a relation. -/
def methodOf (r : Relation) : Method where
  name := methodName r
  related := relatedClass r
  localColumn := r.localColumn
  referencedColumn := r.referencedColumn

/-- What precedes the class in the comment on a method. -/
def commentOpening : Text := "    /**\n     * The "

/-- What stands between the class in the comment and the name of the method. -/
def declarationOpening : Text := " this record belongs to.\n     */\n    public function "

/-- What stands between the name of the method and the namespace of the related class. -/
def bodyOpening : Text := "()\n    \x7b\n        return $this->belongsTo(\\"

/-- What ends a method. -/
def bodyEnd : Text := ");\n    \x7d\n"

/-- The related class as a body names it, and what separates that from the columns. -/
def classReference (modelNamespace className : Text) : Text :=
  Text.concat [modelNamespace, "\\", className, "::class, "]

/-- The method whose declaration a text begins with, for models of a namespace, and what follows
it. The comment and the body must speak of one class. -/
def method? (modelNamespace t : Text) : Option (Method × Text) := do
  let t ← Text.dropStart? commentOpening t
  let (related, t) ← Text.cutAt declarationOpening t
  let (name, t) ← Text.cutAt bodyOpening t
  let t ← Text.dropStart? (classReference modelNamespace related) t
  let (localColumn, t) ← literal? t
  let t ← Text.dropStart? ", " t
  let (referencedColumn, t) ← literal? t
  let t ← Text.dropStart? bodyEnd t
  return ({ name, related, localColumn, referencedColumn }, t)

/-- The methods that a text declares, if it is nothing but declarations with a line feed between
them. -/
def methods? (modelNamespace t : Text) : Option (List Method) :=
  if t = [] then some []
  else
    match method? modelNamespace t with
    | none => none
    | some (m, []) => some [m]
    | some (m, c :: more) =>
      if c = '\n' ∧ more.length < t.length then
        (methods? modelNamespace more).map fun ms => m :: ms
      else none
  termination_by t.length

section

variable (modelNamespace : Text) (r : Relation)

/-- No line feed stands in the name of a method, or in that of a class. -/
theorem feed_not_mem_names :
    CodePoint.char '\n' ∉ methodName r ∧ CodePoint.char '\n' ∉ relatedClass r := by
  have hrange : ¬ (Naming.isJoint (.char '\n') = false ∨ 0x41 ≤ (CodePoint.char '\n').code ∨
      (CodePoint.char '\n').code = 0) := by
    decide
  refine ⟨fun hmem => ?_, mt Naming.mem_studly hrange⟩
  cases hstem : stem? r.localColumn with
  | none =>
    rw [methodName_of_class hstem] at hmem
    exact hrange (Naming.mem_camel hmem)
  | some stem =>
    rw [methodName_of_stem hstem] at hmem
    exact hrange (Naming.mem_camel hmem)

/-- A method is read back whatever follows it: its names end where their lines do. -/
theorem method?_belongsTo (rest : Text) :
    method? modelNamespace (belongsTo modelNamespace r ++ rest) = some (methodOf r, rest) := by
  obtain ⟨hname, hclass⟩ := feed_not_mem_names r
  have hsplit : belongsTo modelNamespace r ++ rest =
      commentOpening ++ (relatedClass r ++ (declarationOpening ++ (methodName r ++ (bodyOpening ++
        (classReference modelNamespace (relatedClass r) ++ (quote r.localColumn ++
          (Text.ofString ", " ++ (quote r.referencedColumn ++ (bodyEnd ++ rest))))))))) := by
    simp [belongsTo, commentOpening, declarationOpening, bodyOpening, classReference, bodyEnd,
      Text.concat, Text.ofString]
  have hfeeds : CodePoint.char '\n' ∈ declarationOpening ∧ CodePoint.char '\n' ∈ bodyOpening := by
    decide
  have hdeclaration := Text.cutAt_append hfeeds.1 hclass
  have hbody := Text.cutAt_append hfeeds.2 hname
  simp only [method?, hsplit, Text.dropStart?_append, Option.bind_eq_bind, Option.bind_some,
    hdeclaration, hbody, literal?_quote, Option.pure_def]
  rfl

/-- A declaration is not empty. -/
theorem belongsTo_ne_nil (rest : Text) : belongsTo modelNamespace r ++ rest ≠ [] := by
  intro hnil
  have hread := method?_belongsTo modelNamespace r rest
  rw [hnil] at hread
  cases hread

end

/-- One method is declared for each relation, in order, and nothing else is. -/
theorem methods?_relationMethods (rs : List Relation) (modelNamespace : Text) :
    methods? modelNamespace (relationMethods rs modelNamespace) = some (rs.map methodOf) := by
  unfold relationMethods
  induction rs with
  | nil =>
    rw [methods?]
    rfl
  | cons r rs ih =>
    cases rs with
    | nil =>
      have hone : Text.join "\n" ([r].map (belongsTo modelNamespace)) =
          belongsTo modelNamespace r ++ [] :=
        (List.append_nil _).symm
      rw [hone, methods?, if_neg (belongsTo_ne_nil modelNamespace r _), method?_belongsTo]
      rfl
    | cons r' rs =>
      have hsplit : Text.join "\n" ((r :: r' :: rs).map (belongsTo modelNamespace)) =
          belongsTo modelNamespace r ++
            .char '\n' :: Text.join "\n" ((r' :: rs).map (belongsTo modelNamespace)) := by
        simp [Text.join, Text.ofString]
      rw [hsplit, methods?, if_neg (belongsTo_ne_nil modelNamespace r _), method?_belongsTo]
      dsimp only
      rw [if_pos ⟨rfl, by simp; omega⟩, ih]
      rfl

/-! ## Distinct methods -/

/-- The text for the methods of a model declares one method for each relation, and the text for the
entries of a resource shows one entry for each, all under the names of the relations. The names are
distinct, and so are the keys, exactly if no two of the relations clash in spelling; and no method
is declared twice exactly if no two clash without regard to case. The names are distinct if every
column is a tidy name before `_id`. If all relations are named after names in snake case, then the
methods are distinct, by their spelling or without regard to case, exactly if these are distinct in
their tidy forms or without their underscores. -/
theorem methodNames_distinct_iff {rs : List Relation}
    (hcolumns : (rs.map Relation.localColumn).Nodup) (hsnake : ∀ r ∈ rs, Snake r.localColumn)
    (modelNamespace : Text) :
    ∃ methods entries, methods? modelNamespace (relationMethods rs modelNamespace) = some methods ∧
      whole? shownEntries? (relationEntries rs) = some entries ∧
      methods = rs.map methodOf ∧ entries = rs.map relatedEntry ∧
      ((methods.map Method.name).Nodup ↔ rs.Pairwise fun r r' => ¬ Clash id tidy r r') ∧
      ((entries.map Prod.fst).Nodup ↔ rs.Pairwise fun r r' => ¬ Clash id tidy r r') ∧
      ((methods.map fun m => uncased m.name).Nodup ↔
        rs.Pairwise fun r r' => ¬ Clash uncased bare r r') ∧
      ((∀ r ∈ rs, ∃ stem, r.localColumn = stem ++ referenceSuffix ∧ IsTidy stem) →
        (methods.map Method.name).Nodup) ∧
      ((∀ r ∈ rs, Snake (namesake r)) →
        ((methods.map Method.name).Nodup ↔ (rs.map fun r => tidy (namesake r)).Nodup) ∧
        ((methods.map fun m => uncased m.name).Nodup ↔
          (rs.map fun r => bare (namesake r)).Nodup)) := by
  -- The language takes names in any case for one, so each statement is made twice: for the names as
  -- they are spelled, and for what is left of them without regard to case.
  have hspelled := nodup_keys_iff id tidy Naming.camel_eq_iff hsnake
  refine ⟨_, _, methods?_relationMethods rs modelNamespace, whole?_relationEntries rs, rfl, rfl, ?_⟩
  rw [List.map_map, List.map_map, List.map_map]
  refine ⟨hspelled, hspelled, nodup_keys_iff uncased bare Naming.uncased_camel_eq_iff hsnake,
    fun htidy => ?_, fun hnamesakes => ⟨nodup_keys_iff_forms id tidy Naming.camel_eq_iff hnamesakes,
      nodup_keys_iff_forms uncased bare Naming.uncased_camel_eq_iff hnamesakes⟩⟩
  have hnamesakes : ∀ r ∈ rs, Snake (namesake r) := by
    intro r hr
    obtain ⟨stem, hcolumn, hstem⟩ := htidy r hr
    have hsome := stem?_eq_some_iff.mpr ⟨hcolumn, hstem.ne_nil⟩
    rw [namesake, hsome]
    exact snake_stem (hsnake r hr) hsome
  exact (nodup_keys_iff_forms id tidy Naming.camel_eq_iff hnamesakes).mpr
    (nodup_namesakes hcolumns htidy)

/-- Two relations to one table do not clash where one of them has a stem of its own. -/
theorem methodNames_distinct_posts :
    let rs : List Relation :=
      [{ localColumn := "author_id", referencedTable := "users" },
        { localColumn := "parent_post_id", referencedTable := "posts" },
        { localColumn := "owner", referencedTable := "users" }]
    ∃ methods, methods? "App\\Models" (relationMethods rs "App\\Models") = some methods ∧
      (methods.map Method.name).Nodup ∧ (methods.map fun m => uncased m.name).Nodup ∧
      rs.Pairwise fun r r' => ¬ Clash uncased bare r r' := by
  intro rs
  have hcolumns : (rs.map Relation.localColumn).Nodup := by decide
  have hsnake : ∀ r ∈ rs, Snake r.localColumn := by decide
  have hnamesakes : ∀ r ∈ rs, Snake (namesake r) := by decide +kernel
  obtain ⟨methods, _, hmethods, _, _, _, _, _, hclash, _, hnames⟩ :=
    methodNames_distinct_iff hcolumns hsnake "App\\Models"
  obtain ⟨hspelled, hcalled⟩ := hnames hnamesakes
  have hdistinct := hcalled.mpr (by decide +kernel)
  exact ⟨methods, hmethods, hspelled.mpr (by decide +kernel), hdistinct, hclash.mp hdistinct⟩

/-- Two columns without `_id` that refer to one table lead to one method that is declared twice, and
to one key for two entries. -/
theorem methodNames_clash :
    let rs : List Relation :=
      [{ localColumn := "created_by", referencedTable := "users" },
        { localColumn := "updated_by", referencedTable := "users" }]
    (rs.map Relation.localColumn).Nodup ∧ (∀ r ∈ rs, r.localColumn ≠ [] ∧ Snake r.localColumn) ∧
      (∃ methods, methods? "App\\Models" (relationMethods rs "App\\Models") = some methods ∧
        methods.map Method.name = ["user", "user"]) ∧
      ∃ entries, whole? shownEntries? (relationEntries rs) = some entries ∧
        entries.map Prod.fst = ["user", "user"] := by
  intro rs
  exact ⟨by decide, by decide, ⟨_, methods?_relationMethods rs _, by decide +kernel⟩,
    _, whole?_relationEntries rs, by decide +kernel⟩

end Scaffold.Php
