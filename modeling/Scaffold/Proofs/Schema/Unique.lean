import Scaffold.Proofs.Distinct
import Scaffold.Schema.Inspection

/-!
# Unique columns

A unique constraint or a unique index makes a column unique if it has the column as its only part.
What counts as its only part are the names, and a part that is an expression has none. So an index
over a column and an expression passes for one over the column alone: the unique columns are those
that some entry names alone (`mem_uniqueColumns_iff`), and they are those that some entry covers
alone exactly if no such index makes the difference (`uniqueColumns_covered_iff`).
-/

namespace Scaffold.Schema

/-! ## Entries -/

/-- The part of an entry that names a column. An empty name is none. -/
def nameOf? (part : Option Text) : Option Text := part.filter (!·.isEmpty)

/-- A part has a name if it is a column with one. -/
theorem nameOf?_eq_some_iff {part : Option Text} {name : Text} :
    nameOf? part = some name ↔ part = some name ∧ name ≠ [] := by
  unfold nameOf?
  rw [Option.filter_eq_some_iff]
  simp

/-- The column is the only part of the entry. -/
def KeyEntry.Covers (e : KeyEntry) (name : Text) : Prop := e.columns = [some name]

/-- The column is the only one that the entry names, in whatever place. -/
structure KeyEntry.Names (e : KeyEntry) (name : Text) : Prop where
  named : name ≠ []
  alone : ∃ before after, e.columns = before ++ some name :: after ∧
    ∀ part ∈ before ++ after, nameOf? part = none

instance (e : KeyEntry) (name : Text) : Decidable (e.Covers name) :=
  inferInstanceAs (Decidable (e.columns = [some name]))

/-- An entry that covers a column alone names it alone. -/
theorem KeyEntry.Covers.names {e : KeyEntry} {name : Text} (h : e.Covers name) (hne : name ≠ []) :
    e.Names name :=
  ⟨hne, [], [], h, nofun⟩

/-- The column of an entry is the one that it names alone. -/
theorem uniqueColumn?_eq_some_iff {e : KeyEntry} {name : Text} :
    Catalog.uniqueColumn? e = some name ↔ e.Names name := by
  have hnames : (e.columns.filterMap id).filter (!·.isEmpty) = e.columns.filterMap nameOf? := by
    rw [List.filter_filterMap]
    rfl
  have hsingle : Catalog.uniqueColumn? e = some name ↔ e.columns.filterMap nameOf? = [name] := by
    unfold Catalog.uniqueColumn?
    rw [hnames]
    split
    next name' hone => simp [hone]
    next hother => exact iff_of_false nofun fun h => hother name h
  -- One part is left after those without a name are dropped, whatever stood around it.
  rw [hsingle, List.filterMap_eq_cons_iff]
  constructor
  · intro hparts
    obtain ⟨before, part, after, hcolumns, hbefore, hpart, hafter⟩ := hparts
    obtain ⟨rfl, hne⟩ := nameOf?_eq_some_iff.mp hpart
    refine ⟨hne, before, after, hcolumns, fun part hmem => ?_⟩
    rcases List.mem_append.mp hmem with hmem | hmem
    · exact hbefore part hmem
    · exact List.filterMap_eq_nil_iff.mp hafter part hmem
  · intro h
    obtain ⟨before, after, hcolumns, hnone⟩ := h.alone
    refine ⟨before, some name, after, hcolumns, fun part hmem => ?_, ?_, ?_⟩
    · exact hnone part (List.mem_append_left _ hmem)
    · exact nameOf?_eq_some_iff.mpr ⟨rfl, h.named⟩
    · exact List.filterMap_eq_nil_iff.mpr fun part hmem =>
        hnone part (List.mem_append_right _ hmem)

/-! ## Tables -/

/-- What makes columns of a table unique: the unique constraints of one answer, and those of the
indexes of the other that are unique. -/
def uniqueEntries (constraints indexes : CatalogTable) : List KeyEntry :=
  constraints.uniqueConstraints ++ indexes.indexes.filter KeyEntry.unique

section

variable {c : Catalog} {database table : Text} {constraints indexes : CatalogTable}

/-- If both lookups answer, the unique columns are told without a warning: those that an entry names
alone, each once. -/
theorem mem_uniqueColumns_iff (hdatabase : database ≠ [])
    (hconstraints : c.tableIn? database table .uniqueConstraints = .ok constraints)
    (hindexes : c.tableIn? database table .indexes = .ok indexes) :
    ∃ names, c.uniqueColumns (some database) table = .ok (names, []) ∧ names.Nodup ∧
      ∀ name, name ∈ names ↔ ∃ e ∈ uniqueEntries constraints indexes, e.Names name := by
  refine ⟨Text.sorted (distinct ((uniqueEntries constraints indexes).filterMap
    Catalog.uniqueColumn?)), ?_, ?_, fun name => ?_⟩
  · cases database with
    | nil => exact absurd rfl hdatabase
    | cons ch rest =>
      unfold Catalog.uniqueColumns
      simp only [hconstraints, hindexes]
      rfl
  · have hdistinct := nodup_map_distinctOn id
      ((uniqueEntries constraints indexes).filterMap Catalog.uniqueColumn?)
    rw [List.map_id] at hdistinct
    exact (List.mergeSort_perm _ Text.le).nodup_iff.mpr hdistinct
  · rw [Text.sorted, List.mem_mergeSort, mem_distinct, List.mem_filterMap]
    exact exists_congr fun e => and_congr_right fun _ => uniqueColumn?_eq_some_iff

/-- If both lookups answer, the unique columns are those that an entry names alone. They are those
that an entry covers alone exactly if for every column that an entry names beside other parts there
is also an entry that covers it, and none covers a column without a name. -/
theorem uniqueColumns_covered_iff (hdatabase : database ≠ [])
    (hconstraints : c.tableIn? database table .uniqueConstraints = .ok constraints)
    (hindexes : c.tableIn? database table .indexes = .ok indexes) :
    ∃ names, c.uniqueColumns (some database) table = .ok (names, []) ∧ names.Nodup ∧
      (∀ name, name ∈ names ↔ ∃ e ∈ uniqueEntries constraints indexes, e.Names name) ∧
      ((∀ name, name ∈ names ↔ ∃ e ∈ uniqueEntries constraints indexes, e.Covers name) ↔
        ∀ e ∈ uniqueEntries constraints indexes, ¬ e.Covers [] ∧
          ∀ name, e.Names name → ∃ e' ∈ uniqueEntries constraints indexes, e'.Covers name) := by
  obtain ⟨names, hfound, hnodup, hnames⟩ := mem_uniqueColumns_iff hdatabase hconstraints hindexes
  refine ⟨names, hfound, hnodup, hnames, ?_⟩
  constructor
  · intro hcovers e he
    constructor
    · intro hempty
      obtain ⟨e', _, hnames'⟩ := (hnames []).mp ((hcovers []).mpr ⟨e, he, hempty⟩)
      exact hnames'.named rfl
    · intro name hname
      exact (hcovers name).mp ((hnames name).mpr ⟨e, he, hname⟩)
  · intro h name
    rw [hnames]
    constructor
    · intro hparts
      obtain ⟨e, he, hname⟩ := hparts
      exact (h e he).2 name hname
    · intro hparts
      obtain ⟨e, he, hcovers⟩ := hparts
      have hne : name ≠ [] := fun hnil => (h e he).1 (hnil ▸ hcovers)
      exact ⟨e, he, hcovers.names hne⟩

end

/-! ## A small example -/

/-- A catalog with a single table. -/
def singleTable (name : Text) (table : CatalogTable) : Catalog where
  tables := [(name, table)]

/-- The index over an address and an expression makes no difference where the address is unique
anyhow, and that over two columns never does. -/
theorem uniqueColumns_covered_of_both :
    let table : CatalogTable :=
      { uniqueConstraints := [⟨[some "email"], true⟩]
        indexes := [⟨[some "email", none], true⟩, ⟨[some "tenant", some "code"], true⟩,
          ⟨[some "name"], false⟩] }
    ∃ names, (singleTable "users" table).uniqueColumns (some "main") "users" = .ok (names, []) ∧
      ∀ name, name ∈ names ↔ ∃ e ∈ uniqueEntries table table, e.Covers name := by
  intro table
  have hall : ∀ e ∈ uniqueEntries table table, ¬ e.Covers [] ∧
      ∀ name ∈ Catalog.uniqueColumn? e, ∃ e' ∈ uniqueEntries table table, e'.Covers name := by
    decide
  have hmain : Text.ofString "main" ≠ [] := by decide
  have hlookup : ∀ l, (singleTable "users" table).tableIn? "main" "users" l = .ok table :=
    fun _ => rfl
  obtain ⟨names, hfound, _, _, hcovered⟩ :=
    uniqueColumns_covered_iff hmain (hlookup _) (hlookup _)
  refine ⟨names, hfound, hcovered.mpr fun e he => ⟨(hall e he).1, fun name hname => ?_⟩⟩
  exact (hall e he).2 name (uniqueColumn?_eq_some_iff.mpr hname)

/-- An index over a column and an expression passes for one over the column alone. -/
theorem unique_beside_expression :
    let table : CatalogTable := { indexes := [⟨[some "email", none], true⟩] }
    ∃ names, (singleTable "users" table).uniqueColumns (some "main") "users" = .ok (names, []) ∧
      Text.ofString "email" ∈ names ∧
      ¬ ∃ e ∈ uniqueEntries table table, e.Covers "email" := by
  intro table
  have hmain : Text.ofString "main" ≠ [] := by decide
  have hlookup : ∀ l, (singleTable "users" table).tableIn? "main" "users" l = .ok table :=
    fun _ => rfl
  obtain ⟨names, hfound, _, hnames⟩ :=
    mem_uniqueColumns_iff hmain (hlookup _) (hlookup _)
  have hindex : ∃ e ∈ uniqueEntries table table,
      Catalog.uniqueColumn? e = some (Text.ofString "email") := by
    decide
  obtain ⟨e, he, hname⟩ := hindex
  exact ⟨names, hfound, (hnames _).mpr ⟨e, he, uniqueColumn?_eq_some_iff.mp hname⟩, by decide⟩

end Scaffold.Schema
