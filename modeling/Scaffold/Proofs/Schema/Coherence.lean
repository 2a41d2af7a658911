import Scaffold.Proofs.Distinct
import Scaffold.Proofs.Naming.Plural
import Scaffold.Proofs.Ordered

/-!
# Metadata that fits together

What may be assigned, how it is cast, how it is validated and what is hidden are derived from the
columns separately. They still fit together (`Coherent`), for columns in any order and with any
repetitions: the assignable columns, each at its first place, are what the rules are about; those
among them that hold no strings are what the casts are about; and the rules of a column's values
are those of the cast that the metadata has for it.

All of it rests on one fact: an assignable column that is kept is the first assignable one of its
name (`mem_fillableColumns_iff`).
-/

namespace Scaffold.Schema

/-! ## Assignable columns -/

/-- The column has a name, is not part of the primary key and is not kept by the application. -/
structure Column.Assignable (c : Column) : Prop where
  named : c.name ≠ []
  keyless : c.isPrimaryKey = false
  unmanaged : c.name ∉ managedColumns

/-- A column may be assigned exactly if it is assignable. -/
theorem isFillable_iff {c : Column} : c.isFillable = true ↔ c.Assignable := by
  have hfillable : c.isFillable = true ↔
      (c.name ≠ [] ∧ c.name ∉ managedColumns) ∧ c.isPrimaryKey = false := by
    simp [Column.isFillable]
  rw [hfillable]
  exact ⟨fun h => ⟨h.1.1, h.2, h.1.2⟩, fun h => ⟨⟨h.named, h.unmanaged⟩, h.keyless⟩⟩

instance (c : Column) : Decidable c.Assignable := decidable_of_iff _ isFillable_iff

/-- The first assignable column of a name. -/
def firstOf (columns : List Column) (name : Text) : Option Column :=
  columns.find? fun c => c.Assignable ∧ c.name = name

theorem filter_isFillable (columns : List Column) :
    columns.filter Column.isFillable = columns.filter fun c => c.Assignable :=
  List.filter_congr fun c _ => by rw [Bool.eq_iff_iff, isFillable_iff, decide_eq_true_iff]

section

variable {columns : List Column} {c : Column} {name : Text}

/-- The columns that may be assigned are the first of their names. -/
theorem mem_fillableColumns_iff :
    c ∈ fillableColumns columns ↔ firstOf columns c.name = some c := by
  rw [fillableColumns, mem_distinctOn_iff, filter_isFillable, List.find?_filter, firstOf]
  simp

/-- No name is there twice. -/
theorem nodup_fillable (columns : List Column) :
    ((fillableColumns columns).map Column.name).Nodup := nodup_map_distinctOn Column.name _

/-- What is derived from every kept column is found under its name. -/
theorem get?_of_column {α : Type} {kept : List Column} (hkept : (kept.map Column.name).Nodup)
    (f : Column → α) (h : c ∈ kept) :
    Ordered.get? (kept.map fun c => (c.name, f c)) c.name = some (f c) := by
  refine Ordered.get?_of_mem ?_ (List.mem_map_of_mem h)
  simpa [Ordered.keys, Function.comp_def] using hkept

/-! ## Casts -/

/-- Casts are for the assignable columns that hold no strings. -/
theorem keys_castsOf (columns : List Column) :
    Ordered.keys (castsOf columns) = ((fillableColumns columns).map Column.name).filter
      fun name => (firstOf columns name).any (·.semanticType ≠ .string) := by
  rw [List.filter_map, Ordered.keys, castsOf, List.map_map]
  refine congrArg (List.map Column.name) (List.filter_congr fun c hc => ?_)
  simp [mem_fillableColumns_iff.mp hc]

/-- A cast is that of the meaning of the type. -/
theorem get?_castsOf (h : c ∈ fillableColumns columns) :
    Ordered.get? (castsOf columns) c.name =
      if c.semanticType = .string then none else some c.semanticType.name := by
  split
  next hstring =>
    rw [← Option.not_isSome_iff_eq_none, Ordered.get?_isSome_iff, keys_castsOf]
    simp [mem_fillableColumns_iff.mp h, hstring]
  next hother =>
    have hsublist : ((fillableColumns columns).filter (·.semanticType ≠ .string)).Sublist
        (fillableColumns columns) := List.filter_sublist
    have hkept := (nodup_fillable columns).sublist (hsublist.map Column.name)
    exact get?_of_column hkept (fun c => c.semanticType.name)
      (List.mem_filter.mpr ⟨h, decide_eq_true hother⟩)

/-! ## Rules -/

/-- The rules of values that need no cast: of strings, of addresses and of passwords. -/
def uncastRules : List (List Text) :=
  [["string", "max:255"], ["email", "max:255"], ["string", "min:8"]]

/-- The rules of a column with strings are among those for columns without a cast. -/
theorem valueRules_of_string (h : c.semanticType = .string) : c.valueRules ∈ uncastRules := by
  have hnamed : ∀ rule ∈ nameRules, rule.2 ∈ uncastRules := by decide
  unfold Column.valueRules
  rw [if_pos h]
  dsimp only
  split
  next rule tokens hfound => exact hnamed _ (List.mem_of_find?_eq_some hfound)
  next => rw [h]; decide

/-- All other columns have the rules of their cast. -/
theorem valueRules_of_other (h : c.semanticType ≠ .string) :
    c.valueRules = c.semanticType.ruleTokens := by
  unfold Column.valueRules
  rw [if_neg h]

/-- So the rules tell whether there is a cast. -/
theorem valueRules_mem_uncast_iff : c.valueRules ∈ uncastRules ↔ c.semanticType = .string := by
  refine ⟨fun h => ?_, valueRules_of_string⟩
  by_contra hother
  rw [valueRules_of_other hother] at h
  cases hmeaning : c.semanticType <;> rw [hmeaning] at h hother
  case string => exact hother rfl
  all_goals exact absurd h (by decide)

/-- The rule that no two rows have the same value. -/
def uniqueRule : Text := "unique"

theorem uniqueRule_not_mem_valueRules : uniqueRule ∉ c.valueRules := by
  by_cases hstring : c.semanticType = .string
  · have huncast : ∀ rules ∈ uncastRules, uniqueRule ∉ rules := by decide
    exact huncast _ (valueRules_of_string hstring)
  · rw [valueRules_of_other hstring]
    cases c.semanticType <;> decide

/-- The first rule of a column. -/
def presenceOf (c : Column) : Text := if c.nullable then "optional" else "required"

theorem uniqueRule_ne_presenceOf : uniqueRule ≠ presenceOf c := by
  unfold presenceOf
  split <;> decide

end

/-- The last rule of a column, if the metadata has it as unique. -/
def uniquenessIn (m : Metadata) (name : Text) : List Text :=
  if m.uniqueFields.elem name then [uniqueRule] else []

/-- The rules are those of the column: whether it must be given, the kinds of its values, and
whether they are unique. The kinds are those of the cast that the metadata has for the column, which
is the one of its type, or those of strings if it has none. -/
structure Ruled (m : Metadata) (c : Column) (kinds rules : List Text) : Prop where
  parts : rules = presenceOf c :: (kinds ++ uniquenessIn m c.name)
  cast : ∀ {word}, Ordered.get? m.casts c.name = some word →
    word = c.semanticType.name ∧ kinds = c.semanticType.ruleTokens
  uncast : Ordered.get? m.casts c.name = none ↔ kinds ∈ uncastRules
  unique : rules.count uniqueRule = if c.name ∈ m.uniqueFields then 1 else 0

/-- The parts of the metadata fit together and fit the columns. -/
structure Coherent (m : Metadata) (columns : List Column) : Prop where
  fillable : m.fillable = ((columns.filter fun c => c.Assignable).map Column.name).eraseDups
  distinct : m.fillable.Nodup
  ruled : Ordered.keys m.validationRules = m.fillable
  cast : Ordered.keys m.casts = m.fillable.filter fun name =>
    (firstOf columns name).any (·.semanticType ≠ .string)
  rules : ∀ {name rules}, Ordered.get? m.validationRules name = some rules →
    ∃ c kinds, firstOf columns name = some c ∧ Ruled m c kinds rules
  hiddenOnce : m.hidden.Nodup
  hidden : ∀ name ∈ m.hidden, name ∈ columns.map Column.name
  relations : ∀ r ∈ m.relations, r.localColumn ∈ columns.map Column.name

/-! ## Hidden columns and relations -/

/-- What is hidden is a column. -/
theorem mem_columns_of_hidden {columns : List Column} {name : Text}
    (h : name ∈ hiddenNames columns) : name ∈ columns.map Column.name :=
  (List.mem_filter.mp ((distinctOn_sublist id _).subset h)).1

/-- Every relation starts at a column, whoever told it. -/
theorem localColumn_mem_columns {columns : List Column} {reported : List Relation} {r : Relation}
    (h : r ∈ relationsOf columns reported) : r.localColumn ∈ columns.map Column.name := by
  unfold relationsOf at h
  split at h
  next =>
    obtain ⟨c, hc, hsuggested⟩ := List.mem_filterMap.mp h
    rw [localColumn_of_suggestedRelation? hsuggested]
    exact List.mem_map_of_mem hc
  next =>
    have hknown := (List.mem_filter.mp h).2
    simpa using hknown

/-! ## All together -/

section

variable (table : Text) (columns : List Column) (reported : List Relation) (unique : List Text)

/-- The rules of a column are those that the metadata call for. -/
theorem ruled_derive {c : Column} (h : c ∈ fillableColumns columns) :
    Ruled (Metadata.derive table columns reported unique) c c.valueRules
      (presenceOf c :: (c.valueRules ++
        uniquenessIn (Metadata.derive table columns reported unique) c.name)) := by
  have hcast : Ordered.get? (Metadata.derive table columns reported unique).casts c.name =
      if c.semanticType = .string then none else some c.semanticType.name := get?_castsOf h
  refine ⟨rfl, fun hword => ?_, ?_, ?_⟩
  · by_cases hstring : c.semanticType = .string
    · rw [hcast, if_pos hstring] at hword
      cases hword
    · rw [hcast, if_neg hstring] at hword
      exact ⟨(Option.some.inj hword).symm, valueRules_of_other hstring⟩
  · rw [hcast, valueRules_mem_uncast_iff]
    simp
  · rw [List.count_cons_of_ne (Ne.symm uniqueRule_ne_presenceOf), List.count_append,
      List.count_eq_zero_of_not_mem uniqueRule_not_mem_valueRules, uniquenessIn]
    split
    next hunique => simp [List.elem_iff.mp hunique]
    next hunique => simp [mt List.elem_iff.mpr hunique]

/-- There are rules for each assignable column, in order. -/
theorem validationRules_derive : (Metadata.derive table columns reported unique).validationRules =
    (fillableColumns columns).map fun c => (c.name, presenceOf c :: (c.valueRules ++
      uniquenessIn (Metadata.derive table columns reported unique) c.name)) := rfl

/-- Derived metadata fits together, whatever the columns, the relations and the unique names. -/
theorem derive_coherent : Coherent (Metadata.derive table columns reported unique) columns where
  fillable := by
    show (fillableColumns columns).map Column.name = _
    rw [fillableColumns, map_distinctOn, filter_isFillable]
  distinct := nodup_fillable columns
  ruled := by
    rw [Ordered.keys, validationRules_derive, List.map_map]
    rfl
  cast := keys_castsOf columns
  rules := by
    intro name rules hrules
    rw [validationRules_derive] at hrules
    obtain ⟨c, hc, heq⟩ := List.mem_map.mp (Ordered.mem_of_get? hrules)
    obtain ⟨rfl, rfl⟩ := Prod.mk.inj heq
    exact ⟨c, c.valueRules, mem_fillableColumns_iff.mp hc,
      ruled_derive table columns reported unique hc⟩
  hiddenOnce := pairwise_distinctOn id _
  hidden := fun _ => mem_columns_of_hidden
  relations := fun _ => localColumn_mem_columns

end

end Scaffold.Schema
