import Scaffold.Proofs.Program
import Scaffold.Schema.Inspection

/-!
# Failing lookups

A lookup fails because the database reports an error, or because the database does not offer the
lookup at all. Keys and unique columns can be done without in either case. Columns cannot, and for
them only errors that the database reports are expected: a lookup that is not offered breaks the
catalog down, be it that of the columns themselves, of the primary key or of the definitions
(`columns_offered`, `columns_withheld`). It is the same with the default schema.

A catalog is tolerable (`Catalog.Tolerable`) if each of its lookups answers or fails in one of these
two ways, in any combination; other errors, such as a missing driver, have no place in the policy.
For such a catalog the conditions under which a question is answered are exact (`columnsTold_iff`,
`databaseName_ok_iff`).

What is printed about lookups that are given up is no matter of the catalog, and is returned beside
what was found.
-/

namespace Scaffold.Schema

variable {α β : Type}

/-! ## Single lookups -/

/-- The lookup gives an answer, or fails in a way that can be done without. -/
def Tolerated (found : Except CatalogError α) : Prop :=
  ∀ e, found = .error e → e.isTolerable = true

/-- The lookup is none that the database does not offer. -/
def Offered (found : Except CatalogError α) : Prop :=
  ∀ e, found = .error e → e.kind ≠ .unsupported

theorem tolerated_ok (a : α) : Tolerated (.ok a) := nofun

theorem offered_ok (a : α) : Offered (.ok a) := nofun

/-- Two lookups one after the other can be done without if both can. -/
theorem Tolerated.bind {found : Except CatalogError α} {next : α → Except CatalogError β}
    (h : Tolerated found) (hnext : ∀ a, Tolerated (next a)) : Tolerated (found >>= next) := by
  cases found with
  | ok a => exact hnext a
  | error e => exact fun e' he' => h e' (by cases he'; rfl)

/-- What is made of a lookup can be done without if the lookup can. -/
theorem Tolerated.map {found : Except CatalogError α} (h : Tolerated found) (f : α → β) :
    Tolerated (found.map f) := by
  cases found with
  | ok a => exact tolerated_ok (f a)
  | error e => exact fun e' he' => h e' (by cases he'; rfl)

/-- Of the failures that can be done without, the database reports those of lookups it offers. -/
theorem CatalogError.isOfDatabase_iff {e : CatalogError} (h : e.isTolerable = true) :
    e.isOfDatabase = true ↔ e.kind ≠ .unsupported := by
  obtain ⟨kind, message⟩ := e
  cases kind <;> simp_all [isTolerable, isOfDatabase]

theorem CatalogError.not_isOfDatabase {e : CatalogError} (h : e.kind = .unsupported) :
    e.isOfDatabase = false := by
  unfold isOfDatabase
  rw [h]

/-- A failed lookup is offered unless the failure says that it is not. -/
theorem offered_error_iff {e : CatalogError} :
    Offered (.error e : Except CatalogError α) ↔ e.kind ≠ .unsupported :=
  ⟨fun h => h e rfl, fun h _ he => by cases he; exact h⟩

/-- Whether a lookup is offered does not depend on what is made of it. -/
theorem Offered.map_iff {found : Except CatalogError α} {f : α → β} :
    Offered (found.map f) ↔ Offered found := by
  cases found with
  | ok a => exact iff_of_true (offered_ok (f a)) (offered_ok a)
  | error e => exact offered_error_iff.trans offered_error_iff.symm

/-- A lookup that is not offered has failed. -/
theorem withheld_iff {found : Except CatalogError α} :
    ¬ Offered found ↔ ∃ e, found = .error e ∧ e.kind = .unsupported := by
  constructor
  · intro h
    cases found with
    | ok a => exact absurd (offered_ok a) h
    | error e => exact ⟨e, rfl, Classical.not_not.mp fun he => h (offered_error_iff.mpr he)⟩
  · intro hparts h
    obtain ⟨e, hfound, he⟩ := hparts
    exact h e hfound he

/-- An error of the database is no more than a missing answer; there is a substitute for it. -/
theorem orElse_offered {found : Except CatalogError α} (h : Tolerated found) (ho : Offered found)
    (substitute : α) : Catalog.orElse substitute found = .ok (found.toOption.getD substitute) := by
  cases found with
  | ok a => rfl
  | error e =>
    unfold Catalog.orElse
    exact if_pos ((CatalogError.isOfDatabase_iff (h e rfl)).mpr (ho e rfl))

/-- A lookup that is not offered has no substitute. -/
theorem orElse_withheld {e : CatalogError} (he : e.kind = .unsupported) (substitute : α) :
    Catalog.orElse substitute (.error e) = .error (.breakdown e) := by
  unfold Catalog.orElse
  exact if_neg (by rw [CatalogError.not_isOfDatabase he]; exact Bool.false_ne_true)

/-- What can be done without gives at least a warning. -/
theorem orWarn_tolerated {found : Except CatalogError (List α)} (h : Tolerated found)
    (warning : Text → Message) :
    (∃ as, found = .ok as ∧ Catalog.orWarn warning found = .ok (as, [])) ∨
      ∃ e, found = .error e ∧ Catalog.orWarn warning found = .ok ([], [warning e.message]) := by
  cases found with
  | ok as => exact Or.inl ⟨as, rfl, rfl⟩
  | error e => exact Or.inr ⟨e, rfl, if_pos (h e rfl)⟩

namespace Catalog

/-! ## Catalogs whose failures can be done without -/

/-- Whatever fails in the catalog fails in a way that can be done without. -/
structure Tolerable (c : Catalog) : Prop where
  lookups : ∀ {name : Text} {table : CatalogTable}, Ordered.get? c.tables name = some table →
    ∀ {lookup : Lookup} {e : CatalogError}, table.failing lookup = some e → e.isTolerable = true
  schema : Tolerated c.defaultSchema

section

variable {c : Catalog} {name : Text}

/-- Where every failure can be done without, so can those of the lookups for a table, -/
theorem Tolerable.table? (h : c.Tolerable) (name : Text) (lookup : Lookup) :
    Tolerated (c.table? name lookup) := by
  unfold Catalog.table?
  intro e he
  cases hget : Ordered.get? c.tables name with
  | none =>
    rw [hget] at he
    cases he
    rfl
  | some table =>
    rw [hget] at he
    cases hfailing : table.failing lookup with
    | none => simp only [hfailing] at he; cases he
    | some e' =>
      simp only [hfailing] at he
      cases he
      exact h.lookups hget hfailing

/-- those of lookups in a schema, -/
theorem Tolerable.tableIn? (h : c.Tolerable) (schema name : Text) (lookup : Lookup) :
    Tolerated (c.tableIn? schema name lookup) := by
  unfold Catalog.tableIn?
  split
  · split
    · exact h.table? name lookup
    · intro e he
      cases he
      rfl
  · exact h.table? name lookup

/-- and those of the definitions. -/
theorem Tolerable.definitions (h : c.Tolerable) (name : Text) :
    Tolerated (c.definitions name) := by
  unfold Catalog.definitions
  split
  · exact tolerated_ok _
  · split
    · exact tolerated_ok _
    · next table hget =>
      split
      next e hfailing =>
        intro e' he'
        cases he'
        exact h.lookups hget hfailing
      next => exact tolerated_ok _

/-! ## Columns -/

/-- What is to be told about the columns of a table: every column of the catalog in its place, with
as much about keys and definitions as is known, or that they cannot be read, and why. -/
inductive ColumnsTold (c : Catalog) (table : Text) : Except ColumnsError (List Column) → Prop where
  | told {t : CatalogTable} : c.table? table .columns = .ok t → t.columns ≠ [] →
    ColumnsTold c table (.ok (t.columns.map (column
      (((c.table? table .primaryKey).map CatalogTable.primaryKey).toOption.getD [])
      ((c.definitions table).toOption.getD []))))
  | empty {t : CatalogTable} : c.table? table .columns = .ok t → t.columns = [] →
    ColumnsTold c table (.error (.unreadable table "no columns reported"))
  | failed {e : CatalogError} : c.table? table .columns = .error e →
    ColumnsTold c table (.error (.unreadable table e.message))

/-- The lookups that are made for the columns of a table are offered. -/
structure OffersColumns (c : Catalog) (table : Text) : Prop where
  columns : Offered (c.table? table .columns)
  primaryKey : ∀ {t : CatalogTable}, c.table? table .columns = .ok t → t.columns ≠ [] →
    Offered (c.table? table .primaryKey)
  definitions : ∀ {t : CatalogTable}, c.table? table .columns = .ok t → t.columns ≠ [] →
    Offered (c.definitions table)

/-- A table without columns is unreadable. -/
theorem columns_of_empty {t : CatalogTable} (ht : c.table? name .columns = .ok t)
    (hempty : t.columns = []) :
    c.columns name = .error (.unreadable name "no columns reported") := by
  unfold Catalog.columns
  rw [ht]
  show (if t.columns.isEmpty then _ else _) = _
  rw [hempty]
  rfl

/-- The columns are there, so that the key and the definitions are looked up. -/
theorem columns_of_table {t : CatalogTable} (ht : c.table? name .columns = .ok t)
    (hsome : t.columns ≠ []) :
    c.columns name = (do
      let primaryKey ← orElse [] ((c.table? name .primaryKey).map CatalogTable.primaryKey)
      let definitions ← orElse [] (c.definitions name)
      return t.columns.map (column primaryKey definitions)) := by
  unfold Catalog.columns
  rw [ht]
  show (if t.columns.isEmpty then _ else _) = _
  rw [List.isEmpty_eq_false_iff.mpr hsome]
  rfl

/-- Columns are told, or reported to be unreadable, if the lookups for them are offered. -/
theorem columns_offered (hc : c.Tolerable) (h : c.OffersColumns name) :
    c.ColumnsTold name (c.columns name) := by
  cases ht : c.table? name .columns with
  | error e =>
    have hcolumns : c.columns name = .error (.unreadable name e.message) := by
      unfold Catalog.columns
      rw [ht]
      have he := (CatalogError.isOfDatabase_iff (hc.table? name .columns e ht)).mpr (h.columns e ht)
      simp only [he]
      rfl
    rw [hcolumns]
    exact .failed ht
  | ok t =>
    by_cases hsome : t.columns = []
    · rw [columns_of_empty ht hsome]
      exact .empty ht hsome
    · rw [columns_of_table ht hsome,
        orElse_offered ((hc.table? name .primaryKey).map _)
          (Offered.map_iff.mpr (h.primaryKey ht hsome)),
        orElse_offered (hc.definitions name) (h.definitions ht hsome)]
      exact .told ht hsome

/-- A substitute is of no use where the lookup is not offered. -/
theorem orElse_bind_withheld {found : Except CatalogError α} (h : ¬ Offered found)
    (substitute : α) (next : α → Except ColumnsError β) :
    ∃ cause, (orElse substitute found >>= next) = .error (.breakdown cause) := by
  obtain ⟨e, rfl, he⟩ := withheld_iff.mp h
  rw [orElse_withheld he]
  exact ⟨e, rfl⟩

/-- Without one of the lookups the catalog breaks down. -/
theorem columns_withheld (hc : c.Tolerable) (h : ¬ c.OffersColumns name) :
    ∃ cause, c.columns name = .error (.breakdown cause) := by
  cases ht : c.table? name .columns with
  | error e =>
    have hwithheld : ¬ Offered (c.table? name .columns) :=
      fun ho => h ⟨ho, by rw [ht]; exact nofun, by rw [ht]; exact nofun⟩
    obtain ⟨e', he', hkind⟩ := withheld_iff.mp hwithheld
    rw [ht] at he'
    cases he'
    refine ⟨e, ?_⟩
    unfold Catalog.columns
    rw [ht]
    simp only [CatalogError.not_isOfDatabase hkind]
    rfl
  | ok t =>
    have hsome : t.columns ≠ [] := by
      intro hempty
      refine h ⟨ht ▸ offered_ok t, ?_, ?_⟩ <;>
      · rw [ht]
        rintro _ ⟨⟩ hsome
        exact absurd hempty hsome
    rw [columns_of_table ht hsome]
    by_cases hkey : Offered (c.table? name .primaryKey)
    · have hdefinitions : ¬ Offered (c.definitions name) :=
        fun ho => h ⟨ht ▸ offered_ok t, fun _ _ => hkey, fun _ _ => ho⟩
      rw [orElse_offered ((hc.table? name .primaryKey).map _) (Offered.map_iff.mpr hkey)]
      exact orElse_bind_withheld hdefinitions _ _
    · exact orElse_bind_withheld (fun ho => hkey (Offered.map_iff.mp ho)) _ _

/-- The columns of a table are told or reported to be unreadable exactly if the lookups for them are
offered. -/
theorem columnsTold_iff (hc : c.Tolerable) :
    c.ColumnsTold name (c.columns name) ↔ c.OffersColumns name := by
  refine ⟨fun htold => Classical.not_not.mp fun hwithheld => ?_, columns_offered hc⟩
  obtain ⟨cause, hcolumns⟩ := columns_withheld hc hwithheld
  rw [hcolumns] at htold
  cases htold

/-! ## The database, its relations and its unique columns -/

/-- The database is told exactly if the default schema is offered. -/
theorem databaseName_ok_iff (hc : c.Tolerable) :
    (∃ database, c.databaseName = .ok database) ↔ Offered c.defaultSchema := by
  unfold databaseName
  cases hschema : c.defaultSchema with
  | ok schema => exact iff_of_true ⟨_, rfl⟩ (offered_ok schema)
  | error e =>
    rw [offered_error_iff, ← CatalogError.isOfDatabase_iff (hc.schema e hschema)]
    cases he : e.isOfDatabase with
    | true =>
      simp only [he]
      exact iff_of_true ⟨_, rfl⟩ trivial
    | false =>
      simp only [he]
      exact iff_of_false nofun nofun

/-- Relations are found or given up, whatever fails. -/
theorem relations_returns (hc : c.Tolerable) (database : Option Text) (table : Text) :
    ∃ found, c.relations database table = .ok found := by
  unfold relations
  split
  next ch rest =>
    rcases orWarn_tolerated ((hc.tableIn? (ch :: rest) table .foreignKeys).map
      fun t => t.foreignKeys.flatMap relationsOf) (relationsWarning table) with
      ⟨_, _, h⟩ | ⟨_, _, h⟩ <;>
    exact ⟨_, h⟩
  next => exact ⟨_, rfl⟩

/-- Unique columns are found or given up, whatever fails. -/
theorem uniqueColumns_returns (hc : c.Tolerable) (database : Option Text) (table : Text) :
    ∃ found, c.uniqueColumns database table = .ok found := by
  unfold uniqueColumns
  split
  next ch rest =>
    have htolerated := ((hc.tableIn? (ch :: rest) table .uniqueConstraints).map
      CatalogTable.uniqueConstraints).bind fun constraints =>
        ((hc.tableIn? (ch :: rest) table .indexes).map CatalogTable.indexes).bind fun indexes =>
          tolerated_ok (Text.sorted (distinct ((constraints ++
            indexes.filter KeyEntry.unique).filterMap uniqueColumn?)))
    rcases orWarn_tolerated htolerated (uniqueWarning table) with ⟨_, _, h⟩ | ⟨_, _, h⟩ <;>
    exact ⟨_, h⟩
  next => exact ⟨_, rfl⟩

end

end Catalog

end Scaffold.Schema
