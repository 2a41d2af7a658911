import Scaffold.Proofs.Run.Validation
import Scaffold.Proofs.Schema.Inspection

/-!
# Runs and the failures of the catalog

The artifacts of a table fail at the files or at the console only, its route at the files, the
console or its template, and after its metadata nothing asks the catalog. So a table breaks off
because of the catalog in two cases only. Either the catalog does not support it: a lookup for its
columns is not offered, or its columns are read and the default schema is not offered (`Supports`).
Or the console refuses a message that tells of the failure of a lookup, which has the wording of the
database in it (`catalogRemarks`). All other failures of lookups are passed over
(`catalog_failures_iff`).

The catalog is a parameter of runs: a function from lookups to answers or errors. Its errors are of
two kinds, those of the database and those of a dialect that does not offer a lookup, and a catalog
is tolerable if it has no others (`Schema.Catalog.Tolerable`). Which lookups may fail in which way
is not restricted beyond that; they may all fail at once.

A fault counts as one of the catalog if it is a catalog's error, or if the console refuses one of
the remarks that tell of a failed lookup (`Fault.OfCatalog`). A console may refuse other messages as
well, and with the same wording; such a fault is not held against the catalog.

The lemmas named `faults_` tell of each step which faults it can have, for a property that the
faults of its parts have. They are put together along the course of a table.
-/

namespace Scaffold.Run

open Program (bind_of_error bind_of_ok error_of_fails fails mapM_members ok_of_toOption)
open Schema (Offered)

variable {α β : Type}

/-! ## The faults of the parts of a table -/

section

variable {P : Fault → Prop}

/-- Steps one after another have the faults of each. -/
theorem faults_mapM {act : α → Step β} {as : List α} (h : ∀ a ∈ as, Faults P (act a)) :
    Faults P (as.mapM act) := by
  induction as with
  | nil => exact faults_of_returns fun s => ⟨[], s, rfl⟩
  | cons a as ih =>
    rw [List.mapM_cons]
    obtain ⟨ha, has⟩ := List.forall_mem_cons.mp h
    exact ha.bind fun b => (ih has).bind fun bs => faults_of_returns fun s => ⟨b :: bs, s, rfl⟩

/-- Wording a duration fails for the clock only. -/
theorem faults_duration (hclock : P .clock) (seconds : Float) :
    Faults P (Step.duration seconds) := by
  unfold Step.duration
  split
  · exact faults_of_returns fun s => ⟨_, s, rfl⟩
  · intro s s' fault hfault
    cases hfault
    exact hclock

variable {g : Generator} (hfiles : ∀ failure, P (.files failure))
  (hconsole : ∀ m reason, g.console.refusal? m = some reason → P (.console m reason))

include hfiles hconsole

/-- Producing a text fails at the files or at the console, and never because of the catalog. -/
theorem faults_produce (a : Artifact) (m : Schema.Metadata) : Faults P (produce g a m) := by
  intro s s' fault hfault
  rcases produce_error hfault with ⟨m, reason, rfl, hrefused⟩ | ⟨failure, rfl, _⟩
  · exact hconsole m reason hrefused
  · exact hfiles failure

/-- Generating an artifact fails at the files or at the console, and never because of the catalog.
-/
theorem faults_generateArtifact (m : Schema.Metadata) (force : Bool) (a : Artifact) :
    Faults P (generateArtifact g m force a) := by
  unfold generateArtifact
  refine (faults_produce hfiles hconsole a m).bind fun produced => ?_
  refine (faults_files fun _ => hfiles _).bind fun written => ?_
  exact (faults_say fun m _ => hconsole m).bind fun _ => faults_of_returns fun s => ⟨_, s, rfl⟩

/-- Registering a route may fail because of its template besides. -/
theorem faults_registerRoute {m : Schema.Metadata}
    (hroute : ∀ cause,
      Pattern.fill g.attributes (routeValues m) g.settings.routeTemplate = .error cause →
        P (.route cause)) : Faults P (registerRoute g m) := by
  unfold registerRoute
  refine (faults_orFault hroute).bind fun declaration => ?_
  refine (faults_files fun _ => hfiles _).bind fun added => ?_
  exact (faults_say fun m _ => hconsole m).bind fun _ => faults_of_returns fun s => ⟨added, s, rfl⟩

end

/-- Resolving artifacts fails because of the structure file or of an entry in it. -/
theorem faults_resolveArtifacts {P : Fault → Prop} {g : Generator}
    (hstructure : ∀ error, P (.structureFile error)) (hartifact : ∀ error, P (.artifact error))
    (className : Text) : Faults P (resolveArtifacts g className) := by
  unfold resolveArtifacts
  refine Faults.bind ?_ fun loaded => faults_orFault fun error _ => hartifact error
  intro s s' fault hfault
  obtain ⟨error, rfl⟩ := faults_loadStructure g s s' fault hfault
  exact hstructure error

/-! ## Tables that the catalog supports -/

/-- What there is to print about a lookup that is given up. -/
def remarksOf (found : Except Schema.CatalogError (α × List Message)) : List Message :=
  match found with
  | .ok (_, messages) => messages
  | .error _ => []

/-- Everything that is printed about the failures of lookups for a table: why its columns cannot be
read, or else what is missing of its relations and of its unique columns. -/
def catalogRemarks (c : Schema.Catalog) (table : Text) : List Message :=
  match c.columns table with
  | .error (.unreadable name reason) => [failureLine (.unreadable name reason)]
  | .error (.breakdown _) => []
  | .ok _ =>
    match c.databaseName with
    | .error _ => []
    | .ok database =>
      remarksOf (c.relations database table) ++ remarksOf (c.uniqueColumns database table)

/-- The fault is one of the catalog: it has broken down, or something that there is to print about
its failures is refused. -/
def Fault.OfCatalog (remarks : List Message) : Fault → Prop
  | .catalog _ => True
  | .console m _ => m ∈ remarks
  | _ => False

/-- The catalog offers what has to be known of a table. -/
structure Supports (c : Schema.Catalog) (table : Text) : Prop where
  columns : c.OffersColumns table
  schema : ∀ {columns : List Schema.Column}, c.columns table = .ok columns →
    Offered c.defaultSchema

section

variable {g : Generator} {table : Text} {remarks : List Message}

/-- What the console refuses is none of the remarks that it shows. -/
theorem not_ofCatalog_of_shows (h : g.console.Shows remarks) (m : Message) (reason : Text)
    (hrefused : g.console.refusal? m = some reason) :
    ¬ Fault.OfCatalog remarks (.console m reason) := by
  intro hmem
  rw [h m hmem] at hrefused
  cases hrefused

/-- A lookup that is told or given up comes to its end exactly if the console shows what there is to
print about it. -/
theorem lookUp_returns_iff {found : Except Schema.CatalogError (α × List Message)}
    (hfound : ∃ answer, found = .ok answer) (s : Session) :
    (∃ a s', lookUp g found s = .ok a s') ↔ g.console.Shows (remarksOf found) := by
  obtain ⟨⟨a, messages⟩, rfl⟩ := hfound
  constructor
  · rintro ⟨a', s', h⟩
    obtain ⟨_, ⟨⟩, hshows, _⟩ := lookUp_ok_iff.mp h
    exact hshows
  · intro hshows
    exact ⟨a, _, lookUp_ok_iff.mpr ⟨messages, rfl, hshows, rfl⟩⟩

/-- A lookup that the catalog answers breaks off at a remark that the console refuses. -/
theorem lookUp_refused {found : Except Schema.CatalogError (α × List Message)}
    (hfound : ∃ answer, found = .ok answer) (hnot : ¬ g.console.Shows (remarksOf found))
    (s : Session) :
    ∃ m ∈ remarksOf found, ∃ reason s', lookUp g found s = .error (.console m reason) s' := by
  obtain ⟨⟨a, messages⟩, rfl⟩ := hfound
  cases hsay : Step.say g.console messages s with
  | ok u s' => exact absurd (say_ok_iff.mp hsay).1 hnot
  | error fault s' =>
    obtain ⟨m, hm, reason, rfl, _⟩ := say_error hsay
    exact ⟨m, hm, reason, s', bind_of_error hsay _⟩

/-- A lookup that answers breaks off in no other way than that the console refuses a remark. -/
theorem faults_lookUp {P : Fault → Prop}
    (hconsole : ∀ m reason, g.console.refusal? m = some reason → P (.console m reason))
    {found : Except Schema.CatalogError (α × List Message)} (hfound : ∃ answer, found = .ok answer) :
    Faults P (lookUp g found) := by
  obtain ⟨answer, rfl⟩ := hfound
  refine (faults_orFault fun _ hnot => nomatch hnot).bind fun answer => ?_
  exact (faults_say fun m _ => hconsole m).bind fun _ => faults_of_returns fun s => ⟨_, s, rfl⟩

/-! ## Tables -/

/-- What the catalog can tell is derived, unless the console refuses what there is to print. -/
theorem faults_deriveMetadata {P : Fault → Prop}
    (hconsole : ∀ m reason, g.console.refusal? m = some reason → P (.console m reason))
    {columns : List Schema.Column} {m : Schema.Metadata}
    (h : g.derive? table columns = some m) : Faults P (deriveMetadata g table columns) := by
  unfold Generator.derive? at h
  obtain ⟨database, hdatabase, h⟩ := Option.bind_eq_some_iff.mp h
  obtain ⟨relations, hrelations, h⟩ := Option.bind_eq_some_iff.mp h
  obtain ⟨unique, hunique, _⟩ := Option.bind_eq_some_iff.mp h
  unfold deriveMetadata
  rw [ok_of_toOption hdatabase]
  show Faults P ((pure database : Step _) >>= _)
  rw [pure_bind]
  refine (faults_lookUp hconsole ⟨relations, ok_of_toOption hrelations⟩).bind fun relations => ?_
  refine (faults_lookUp hconsole ⟨unique, ok_of_toOption hunique⟩).bind fun unique => ?_
  exact faults_of_returns fun s => ⟨_, s, rfl⟩

/-- With a default schema, metadata are derived whatever else fails. -/
theorem derive?_of_schema (hc : g.catalog.Tolerable) (hschema : Offered g.catalog.defaultSchema)
    (columns : List Schema.Column) : ∃ m, g.derive? table columns = some m := by
  obtain ⟨database, hdatabase⟩ := (Schema.Catalog.databaseName_ok_iff hc).mpr hschema
  obtain ⟨relations, hrelations⟩ := Schema.Catalog.relations_returns hc database table
  obtain ⟨unique, hunique⟩ := Schema.Catalog.uniqueColumns_returns hc database table
  refine ⟨.derive table columns relations.1 unique.1, ?_⟩
  unfold Generator.derive?
  refine Option.bind_eq_some_iff.mpr ⟨database, congrArg Except.toOption hdatabase, ?_⟩
  refine Option.bind_eq_some_iff.mpr ⟨relations, congrArg Except.toOption hrelations, ?_⟩
  exact Option.bind_eq_some_iff.mpr ⟨unique, congrArg Except.toOption hunique, rfl⟩

/-- With a default schema on offer, and every remark shown, a table that can be read does not break
off because of the catalog. -/
theorem faults_generateReadable (hc : g.catalog.Tolerable)
    (hschema : Offered g.catalog.defaultSchema) (hshows : g.console.Shows remarks) (force : Bool)
    (started : Float) (columns : List Schema.Column) :
    Faults (fun fault => ¬ fault.OfCatalog remarks)
      (generateReadable g force started table columns) := by
  have hconsole := not_ofCatalog_of_shows hshows
  obtain ⟨m, hm⟩ : ∃ m, g.derive? table columns = some m := derive?_of_schema hc hschema columns
  unfold generateReadable
  refine (faults_deriveMetadata hconsole hm).bind fun m => ?_
  refine (faults_say fun m _ => hconsole m).bind fun _ => ?_
  refine (faults_say fun m _ => hconsole m).bind fun _ => ?_
  refine (faults_resolveArtifacts (fun _ => id) (fun _ => id) _).bind fun artifacts => ?_
  refine (faults_mapM fun a _ => faults_generateArtifact (fun _ => id) hconsole m force a).bind
    fun outcomes => ?_
  refine (faults_registerRoute (fun _ => id) hconsole fun _ _ => id).bind fun added => ?_
  refine (quiet_readClock g).faults.bind fun ended => ?_
  refine (faults_duration id _).bind fun elapsed => ?_
  exact (faults_say fun m _ => hconsole m).bind fun _ => faults_of_returns fun s => ⟨_, s, rfl⟩

/-- A table that the catalog supports does not break off because of the catalog, if the remarks are
shown. -/
theorem faults_generateTable (hc : g.catalog.Tolerable) (h : Supports g.catalog table)
    (hshows : g.console.Shows remarks) (force : Bool) :
    Faults (fun fault => ¬ fault.OfCatalog remarks) (generateTable g force table) := by
  unfold generateTable
  refine (quiet_readClock g).faults.bind fun started => ?_
  have htold := Schema.Catalog.columns_offered hc h.columns
  cases hcolumns : g.catalog.columns table with
  | ok columns => exact faults_generateReadable hc (h.schema hcolumns) hshows force started columns
  | error error =>
    cases error with
    | unreadable name reason =>
      exact (faults_say fun m _ => not_ofCatalog_of_shows hshows m).bind fun _ =>
        faults_of_returns fun s => ⟨_, s, rfl⟩
    | breakdown cause =>
      rw [hcolumns] at htold
      cases htold

/-- Of a table that is not supported nothing is generated. -/
theorem generateTable_unsupported (hc : g.catalog.Tolerable) (h : ¬ Supports g.catalog table)
    (force : Bool) (s : Session) :
    ∃ cause s', generateTable g force table s = .error (.catalog cause) s' := by
  unfold generateTable
  by_cases hoffered : g.catalog.OffersColumns table
  · cases hcolumns : g.catalog.columns table with
    | error e => exact absurd ⟨hoffered, by rw [hcolumns]; exact nofun⟩ h
    | ok columns =>
      -- The columns are read, so that the default schema is what is missing.
      have hwithheld : ¬ Offered g.catalog.defaultSchema :=
        fun hschema => h ⟨hoffered, fun _ => hschema⟩
      cases hdatabase : g.catalog.databaseName with
      | ok database =>
        exact absurd ((Schema.Catalog.databaseName_ok_iff hc).mp ⟨database, hdatabase⟩) hwithheld
      | error cause =>
        unfold generateReadable deriveMetadata
        rw [hdatabase]
        exact ⟨cause, _, rfl⟩
  · obtain ⟨cause, hcolumns⟩ := Schema.Catalog.columns_withheld hc hoffered
    rw [hcolumns]
    exact ⟨cause, _, rfl⟩

/-- One of the two lookups breaks off if the console refuses a remark on either. -/
theorem deriveMetadata_refused (hc : g.catalog.Tolerable) {database : Option Text}
    (hdatabase : g.catalog.databaseName = .ok database)
    (hnot : ¬ g.console.Shows (remarksOf (g.catalog.relations database table) ++
      remarksOf (g.catalog.uniqueColumns database table)))
    (columns : List Schema.Column) (s : Session) :
    ∃ m ∈ remarksOf (g.catalog.relations database table) ++
        remarksOf (g.catalog.uniqueColumns database table), ∃ reason s',
      deriveMetadata g table columns s = .error (.console m reason) s' := by
  have hrelations := Schema.Catalog.relations_returns hc database table
  have hunique := Schema.Catalog.uniqueColumns_returns hc database table
  unfold deriveMetadata
  rw [hdatabase]
  by_cases hshows : g.console.Shows (remarksOf (g.catalog.relations database table))
  · -- The relations are told or given up, so that a remark on the unique columns is refused.
    obtain ⟨relations, s₁, hfirst⟩ := (lookUp_returns_iff hrelations s).mpr hshows
    obtain ⟨m, hm, reason, s', hsecond⟩ := lookUp_refused hunique
      (fun hshows' => hnot (List.forall_mem_append.mpr ⟨hshows, hshows'⟩)) s₁
    refine ⟨m, List.mem_append_right _ hm, reason, s', ?_⟩
    exact (bind_of_ok hfirst _).trans (bind_of_error hsecond _)
  · obtain ⟨m, hm, reason, s', hfirst⟩ := lookUp_refused hrelations hshows s
    exact ⟨m, List.mem_append_left _ hm, reason, s', bind_of_error hfirst _⟩

/-- The first remark that the console refuses breaks off the table, before anything is generated. -/
theorem generateTable_unremarked (hc : g.catalog.Tolerable) (h : Supports g.catalog table)
    (hnot : ¬ g.console.Shows (catalogRemarks g.catalog table)) (force : Bool) (s : Session) :
    ∃ m ∈ catalogRemarks g.catalog table, ∃ reason s',
      generateTable g force table s = .error (.console m reason) s' := by
  unfold generateTable
  unfold catalogRemarks at hnot ⊢
  cases hcolumns : g.catalog.columns table with
  | error error =>
    rw [hcolumns] at hnot
    -- A breakdown is not remarked on; an unreadable table is, before it is reported.
    cases error with
    | breakdown cause => exact absurd (show g.console.Shows [] from nofun) hnot
    | unreadable name reason =>
      simp only at hnot ⊢
      cases hsay : Step.say g.console [failureLine (.unreadable name reason)]
          { s with readings := s.readings + 1 } with
      | ok u s' => exact absurd (say_ok_iff.mp hsay).1 hnot
      | error fault s' =>
        obtain ⟨m, hm, why, rfl, _⟩ := say_error hsay
        exact ⟨m, hm, why, s', bind_of_error hsay _⟩
  | ok columns =>
    rw [hcolumns] at hnot
    simp only at hnot ⊢
    obtain ⟨database, hdatabase⟩ :=
      (Schema.Catalog.databaseName_ok_iff hc).mpr (h.schema hcolumns)
    rw [hdatabase] at hnot ⊢
    obtain ⟨m, hm, reason, s', hderive⟩ := deriveMetadata_refused hc hdatabase hnot columns
      { s with readings := s.readings + 1 }
    exact ⟨m, hm, reason, s', bind_of_error hderive _⟩

/-- A table breaks off because of the catalog exactly if the catalog does not support it or the
console refuses a remark. -/
theorem generateTable_catalog_iff (hc : g.catalog.Tolerable) (force : Bool) (s : Session) :
    (∃ fault s', generateTable g force table s = .error fault s' ∧
      fault.OfCatalog (catalogRemarks g.catalog table)) ↔
      ¬ (Supports g.catalog table ∧ g.console.Shows (catalogRemarks g.catalog table)) := by
  constructor
  · rintro ⟨fault, s', hfault, hcatalog⟩ ⟨hsupports, hshows⟩
    exact faults_generateTable hc hsupports hshows force s s' fault hfault hcatalog
  · intro h
    by_cases hsupports : Supports g.catalog table
    · obtain ⟨m, hm, reason, s', hfault⟩ :=
        generateTable_unremarked hc hsupports (fun hshows => h ⟨hsupports, hshows⟩) force s
      exact ⟨_, s', hfault, hm⟩
    · obtain ⟨cause, s', hfault⟩ := generateTable_unsupported hc hsupports force s
      exact ⟨_, s', hfault, trivial⟩

/-! ## Runs -/

/-- The catalog supports all the tables, and the console shows what there is to print about them. -/
def CatalogSuffices (g : Generator) (tables : List Text) : Prop :=
  ∀ table ∈ tables, Supports g.catalog table ∧ g.console.Shows (catalogRemarks g.catalog table)

/-- A run does not break off because of the catalog if that suffices for all of its tables. -/
theorem faults_generate {tables : List Text} (hc : g.catalog.Tolerable) (h : CatalogSuffices g tables)
    (force : Option Bool) :
    Faults (fun fault => ¬ fault.OfCatalog (tables.flatMap (catalogRemarks g.catalog)))
      (generate g tables force) := by
  have hshows : g.console.Shows (tables.flatMap (catalogRemarks g.catalog)) := by
    intro m hm
    obtain ⟨table, htable, hm⟩ := List.mem_flatMap.mp hm
    exact (h table htable).2 m hm
  have hconsole := not_ofCatalog_of_shows hshows
  unfold generate
  refine Faults.bind ?_ fun loaded => ?_
  · intro s s' fault hfault
    obtain ⟨error, rfl⟩ := faults_loadStructure g s s' fault hfault
    exact id
  refine (faults_files fun _ => id).bind fun base => ?_
  refine (faults_say fun m _ => hconsole m).bind fun _ => ?_
  refine (faults_diagnoseStubs hconsole fun _ => id).bind fun _ => ?_
  refine (faults_probe hconsole fun _ => id).bind fun _ => ?_
  refine (quiet_readClock g).faults.bind fun started => ?_
  refine (faults_mapM fun table hmem => faults_generateTable hc (h table hmem).1 hshows _).bind
    fun reports => ?_
  refine (quiet_readClock g).faults.bind fun ended => ?_
  refine (faults_duration id _).bind fun elapsed => ?_
  exact (faults_say fun m _ => hconsole m).bind fun _ => faults_of_returns fun s => ⟨_, s, rfl⟩

/-- If a run returns, the catalog supported all of its tables and the console showed what there was
to print about them. -/
theorem suffices_of_generate {tables : List Text} (hc : g.catalog.Tolerable)
    {force : Option Bool} {s s' : Session} {r : Report}
    (h : generate g tables force s = .ok r s') : CatalogSuffices g tables := by
  obtain ⟨_, _, _, _, _, _, _, htables, _⟩ := generate_ok h
  refine mapM_members (I := fun _ => True) (fun {table r s s'} _ hgenerate => ⟨trivial, ?_⟩)
    htables trivial
  refine Classical.not_not.mp fun hnot => ?_
  obtain ⟨fault, s'', hfault, _⟩ := (generateTable_catalog_iff hc _ s).mpr hnot
  rw [hfault] at hgenerate
  cases hgenerate

end

/-- Where every failure of a lookup can be done without, the columns of a table are told in full or
reported to be unreadable exactly if the lookups for them are offered, and the database exactly if
the default schema is. Relations and unique columns are told or given up exactly if the console
shows what there is to print about that. So a table breaks off because of the catalog exactly if it
is not supported or a remark on its lookups is refused. No run breaks off because of the catalog if
this is so of none of its tables, and no run that comes to a table of which it is so returns. -/
theorem catalog_failures_iff {c : Schema.Catalog} (hc : c.Tolerable) :
    (∀ table, c.ColumnsTold table (c.columns table) ↔ c.OffersColumns table) ∧
    ((∃ database, c.databaseName = .ok database) ↔ Offered c.defaultSchema) ∧
    ∀ g : Generator, g.catalog = c →
      (∀ database table s,
        ((∃ relations s', readRelations g database table s = .ok relations s') ↔
          g.console.Shows (remarksOf (c.relations database table))) ∧
        ((∃ unique s', readUniqueColumns g database table s = .ok unique s') ↔
          g.console.Shows (remarksOf (c.uniqueColumns database table)))) ∧
      (∀ table force s, (∃ fault s', generateTable g force table s = .error fault s' ∧
          fault.OfCatalog (catalogRemarks c table)) ↔
        ¬ (Supports c table ∧ g.console.Shows (catalogRemarks c table))) ∧
      ∀ tables force s,
        (CatalogSuffices g tables → ∀ fault s', generate g tables force s = .error fault s' →
          ¬ fault.OfCatalog (tables.flatMap (catalogRemarks c))) ∧
        (¬ CatalogSuffices g tables → ∀ r s', generate g tables force s ≠ .ok r s') := by
  refine ⟨fun table => Schema.Catalog.columnsTold_iff hc, Schema.Catalog.databaseName_ok_iff hc, ?_⟩
  rintro g rfl
  refine ⟨fun database table s => ⟨?_, ?_⟩, fun table force s => generateTable_catalog_iff hc force s,
    fun tables force s => ⟨?_, ?_⟩⟩
  · exact lookUp_returns_iff (Schema.Catalog.relations_returns hc database table) s
  · exact lookUp_returns_iff (Schema.Catalog.uniqueColumns_returns hc database table) s
  · intro hsuffices fault s' hfault
    exact faults_generate hc hsuffices force s s' fault hfault
  · intro hnot r s' hreturned
    exact hnot (suffices_of_generate hc hreturned)

/-! ## A small example -/

/-- A catalog with a single table, where some lookups fail. -/
def failingCatalog (schema : Except Schema.CatalogError (Option Text))
    (failing : Schema.Lookup → Option Schema.CatalogError) : Schema.Catalog where
  tables := [("users", { columns := [{ name := "id", type := .written "INTEGER" }], failing })]
  defaultSchema := schema

/-- A catalog of lookups that fail is tolerable if each of their errors is. -/
theorem failingCatalog_tolerable {schema : Except Schema.CatalogError (Option Text)}
    {failing : Schema.Lookup → Option Schema.CatalogError} (hschema : Schema.Tolerated schema)
    (h : ∀ lookup e, failing lookup = some e → e.isTolerable = true) :
    (failingCatalog schema failing).Tolerable where
  lookups := by
    intro name table hget lookup e he
    simp only [failingCatalog, Ordered.get?] at hget
    split at hget
    · cases hget
      exact h lookup e he
    · cases hget
  schema := hschema

/-- A primary key that cannot be told and foreign keys that are not offered are passed over, if the
console shows the warning about the latter. -/
theorem catalog_failures_iff_keyless :
    let c := failingCatalog (.ok (some "main")) fun
      | .primaryKey => some ⟨.database, "locked"⟩
      | .foreignKeys => some ⟨.unsupported, "no keys"⟩
      | _ => none
    let warning := Schema.Catalog.relationsWarning "users" "no keys"
    c.Tolerable ∧ c.ColumnsTold "users" (c.columns "users") ∧
      ∀ g : Generator, g.catalog = c → g.console.Shows [warning] → ∀ force s fault s',
        generate g ["users"] force s = .error fault s' → ¬ fault.OfCatalog [warning] := by
  intro c warning
  have hc : c.Tolerable := by
    refine failingCatalog_tolerable (Schema.tolerated_ok _) fun lookup e he => ?_
    cases lookup <;> cases he <;> rfl
  have hkey : c.table? "users" .primaryKey = .error ⟨.database, "locked"⟩ := rfl
  have hoffers : c.OffersColumns "users" :=
    ⟨Schema.offered_ok _, fun _ _ => by rw [hkey]; exact Schema.offered_error_iff.mpr (by decide),
      fun _ _ => Schema.offered_ok _⟩
  have hremarks : catalogRemarks c "users" = [warning] := by rfl
  obtain ⟨hcolumns, _, hruns⟩ := catalog_failures_iff hc
  refine ⟨hc, (hcolumns _).mpr hoffers, fun g hg hshows force s fault s' hfault => ?_⟩
  have hsuffices : CatalogSuffices g ["users"] := by
    intro table hmem
    obtain rfl := List.mem_singleton.mp hmem
    rw [hg, hremarks]
    exact ⟨⟨hoffers, fun _ => Schema.offered_ok _⟩, hshows⟩
  have hnot := ((hruns g hg).2.2 ["users"] force s).1 hsuffices fault s' hfault
  rw [List.flatMap_singleton, hremarks] at hnot
  exact hnot

/-- A primary key that is not offered leaves no columns, and breaks off a run; so does a default
schema that is not offered. -/
theorem withheld_lookups_break_off :
    let keyless := failingCatalog (.ok none) fun
      | .primaryKey => some ⟨.unsupported, "no keys"⟩
      | _ => none
    let unnamed := failingCatalog (.error ⟨.unsupported, "no schema"⟩) fun _ => none
    (keyless.Tolerable ∧ unnamed.Tolerable) ∧
      (¬ keyless.ColumnsTold "users" (keyless.columns "users") ∧
        ∀ database, unnamed.databaseName ≠ .ok database) ∧
      ∀ c ∈ [keyless, unnamed],
        fails (generate { usersGenerator .none .unreachable with catalog := c } ["users"] none)
          (fun fault => fault matches .catalog _) (usersSession noteStructure []) = true := by
  intro keyless unnamed
  refine ⟨⟨?_, ?_⟩, ⟨?_, nofun⟩, ?_⟩
  · refine failingCatalog_tolerable (Schema.tolerated_ok _) fun lookup e he => ?_
    cases lookup <;> cases he
    rfl
  · exact failingCatalog_tolerable (fun e he => by cases he; rfl) nofun
  · have hcolumns : keyless.columns "users" = .error (.breakdown ⟨.unsupported, "no keys"⟩) := rfl
    rw [hcolumns]
    exact nofun
  · intro c hc
    rcases List.mem_cons.mp hc with rfl | hc
    · decide +kernel
    · obtain rfl := List.mem_singleton.mp hc
      decide +kernel

end Scaffold.Run
