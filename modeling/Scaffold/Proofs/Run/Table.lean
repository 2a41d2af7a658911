import Scaffold.Proofs.Artifact.Structure
import Scaffold.Proofs.Run.Source

/-!
# What generating a table comes to

Once the entries of the structure are known (`Known`), generating a table is generating the
artifacts that follow from them, one after another, and registering one route; everything else that
happens is printing (`Course`). A table whose columns cannot be read is only reported, and nothing
is done for it (`generateTable_ok`).

The entries come from the structure file, which is read when the first step asks for them, or are
the default ones if the settings name no file. After that they are kept in the session (`Recalls`):
a structure file that is written to in the middle of a run, by the run itself or by an artifact with
such a target, changes nothing until the next run. `Given` tells the entries from where the run
starts.

`Course` is what the other modules work with. It has the metadata, the artifacts, the two sessions
between which the artifacts are generated, and the registration, together with the equations that
tie them to each other. So a theorem about a table is a theorem about `mapM` over its artifacts and
about one registration, and none of them has to look into the steps of a table again. What
`generateTable` prints, and the durations in it, are left out of a course.

A report is about the table that was asked for and the artifacts that follow for it (`subject`),
whatever becomes of them; this is what whole runs are told by in `generateTables_subject`.
-/

namespace Scaffold.Run

open Files (Path)
open Program (bind_ok_iff mapM_map pure_ok_iff)

/-! ## The entries of the structure -/

/-- The entries by which tables are generated: those of the structure file, once it was read, or
the default ones if there is no such file. -/
def Known (g : Generator) (s : Session) (entries : List Entry) : Prop :=
  match g.settings.structureFile with
  | none => entries = Structure.default
  | some _ => s.entries = some entries

/-- With a structure file, the entries are known once the session holds them. -/
theorem known_of_file {g : Generator} {s : Session} {entries : List Entry} {path : Path}
    (hfile : g.settings.structureFile = some path) :
    Known g s entries ↔ s.entries = some entries := by
  unfold Known
  rw [hfile]

/-- Without a structure file, the default entries are known from the start. -/
theorem known_of_no_file {g : Generator} {s : Session} {entries : List Entry}
    (hfile : g.settings.structureFile = none) :
    Known g s entries ↔ entries = Structure.default := by
  unfold Known
  rw [hfile]

/-- What is known depends on the session by the entries it holds. -/
theorem Known.of_entries {g : Generator} {s s' : Session} {entries : List Entry}
    (h : Known g s entries) (heq : s'.entries = s.entries) : Known g s' entries := by
  unfold Known at h ⊢
  rw [heq]
  exact h

/-- There is one list of entries at most by which tables are generated. -/
theorem Known.unique {g : Generator} {s : Session} {entries entries' : List Entry}
    (h : Known g s entries) (h' : Known g s entries') : entries' = entries := by
  cases hfile : g.settings.structureFile with
  | none =>
    rw [known_of_no_file hfile] at h h'
    exact h'.trans h.symm
  | some path =>
    rw [known_of_file hfile] at h h'
    rw [h] at h'
    cases h'
    rfl

/-- The entries are the same, unless there were none yet and there is a file to read them from. -/
def Recalls (g : Generator) (s s' : Session) : Prop :=
  s'.entries = s.entries ∨ (s.entries = none ∧ g.settings.structureFile ≠ none)

/-- Entries are read once in a run: after that they only have to be recalled. -/
theorem Recalls.trans {g : Generator} {s s' s'' : Session} (h : Recalls g s s')
    (h' : Recalls g s' s'') : Recalls g s s'' := by
  rcases h with heq | hnew
  · unfold Recalls
    rw [← heq]
    exact h'
  · exact Or.inr hnew

/-- Entries that were known still are. -/
theorem Recalls.known {g : Generator} {s s' : Session} {entries : List Entry}
    (h : Recalls g s s') (hknown : Known g s entries) : Known g s' entries := by
  rcases h with heq | ⟨hnone, hfile⟩
  · exact hknown.of_entries heq
  · obtain ⟨path, hpath⟩ := Option.ne_none_iff_exists'.mp hfile
    rw [known_of_file hpath, hnone] at hknown
    cases hknown

/-- The files are the same, and the entries as well if there were any. -/
structure Learns (g : Generator) (s s' : Session) : Prop where
  tree : s'.tree = s.tree
  recalls : Recalls g s s'

/-- What touches neither files nor entries learns nothing. -/
theorem Still.learns {s s' : Session} (h : Still s s') (g : Generator) : Learns g s s' :=
  ⟨h.tree, Or.inl h.entries⟩

/-- A run may learn the entries at any of its steps. -/
theorem Learns.trans {g : Generator} {s s' s'' : Session} (h : Learns g s s')
    (h' : Learns g s' s'') : Learns g s s'' :=
  ⟨h'.tree.trans h.tree, h.recalls.trans h'.recalls⟩

/-- The entries that a run works with: those that are known before it, or those that it reads
from the structure file. -/
def Given (g : Generator) (s : Session) (entries : List Entry) : Prop :=
  Known g s entries ∨ ∃ path t, g.settings.structureFile = some path ∧ s.entries = none ∧
    Structure.load path s.tree = .ok (.ok entries) t

/-- The entries a run works with are told by where it starts. -/
theorem Given.unique {g : Generator} {s : Session} {entries entries' : List Entry}
    (h : Given g s entries) (h' : Given g s entries') : entries = entries' := by
  rcases h with h | ⟨path, t, hfile, hnone, hload⟩ <;>
    rcases h' with h' | ⟨path', t', hfile', hnone', hload'⟩
  · exact (h.unique h').symm
  · rw [known_of_file hfile', hnone'] at h
    cases h
  · rw [known_of_file hfile, hnone] at h'
    cases h'
  · rw [hfile] at hfile'
    cases hfile'
    rw [hload] at hload'
    cases hload'
    rfl

/-- Entries that are known are not read again. -/
theorem loadStructure_known {g : Generator} {entries : List Entry} {s : Session}
    (h : Known g s entries) :
    ∃ loaded, loadStructure g s = .ok loaded s ∧ loaded.getD Structure.default = entries := by
  unfold loadStructure
  cases hfile : g.settings.structureFile with
  | none =>
    rw [known_of_no_file hfile] at h
    exact ⟨none, rfl, h.symm⟩
  | some path =>
    rw [known_of_file hfile] at h
    refine ⟨some entries, ?_, rfl⟩
    show (get >>= _ : Step _) s = _
    rw [Program.bind_get, h]
    rfl

/-- Loading the structure gives the entries of the run and makes them known. It reads the file at
most once, and only while nothing is known. -/
theorem loadStructure_ok {g : Generator} {s s' : Session} {loaded : Option (List Entry)}
    (h : loadStructure g s = .ok loaded s') :
    Learns g s s' ∧ s'.prompts = s.prompts ∧ Given g s (loaded.getD Structure.default) ∧
      Known g s' (loaded.getD Structure.default) := by
  unfold loadStructure at h
  cases hfile : g.settings.structureFile with
  | none =>
    have hknown : Known g s Structure.default := (known_of_no_file hfile).mpr rfl
    simp only [hfile] at h
    obtain ⟨rfl, rfl⟩ := pure_ok_iff.mp h
    exact ⟨(Still.refl s).learns g, rfl, Or.inl hknown, hknown⟩
  | some path =>
    simp only [hfile] at h
    rw [Program.bind_get] at h
    cases hentries : s.entries with
    | some entries =>
      have hknown : Known g s entries := (known_of_file hfile).mpr hentries
      simp only [hentries] at h
      obtain ⟨rfl, rfl⟩ := pure_ok_iff.mp h
      exact ⟨(Still.refl s).learns g, rfl, Or.inl hknown, hknown⟩
    | none =>
      simp only [hentries] at h
      obtain ⟨found, s₁, hfiles, h⟩ := bind_ok_iff.mp h
      obtain ⟨t, hload, rfl⟩ := files_ok_iff.mp hfiles
      obtain ⟨entries, s₂, hfound, h⟩ := bind_ok_iff.mp h
      -- A file that is no structure breaks the run off, so the entries are those of the file.
      cases found with
      | error error => cases hfound
      | ok entries' =>
        obtain ⟨rfl, rfl⟩ := pure_ok_iff.mp hfound
        obtain ⟨_, s₃, hmodify, h⟩ := bind_ok_iff.mp h
        obtain ⟨rfl, rfl⟩ := pure_ok_iff.mp h
        cases hmodify
        obtain ⟨rfl, _⟩ := Structure.load_ok hload
        have hrecalls : Recalls g s { s with entries := some entries' } :=
          Or.inr ⟨hentries, by rw [hfile]; exact nofun⟩
        exact ⟨⟨rfl, hrecalls⟩, rfl, Or.inr ⟨path, s.tree, hfile, hentries, hload⟩,
          (known_of_file hfile).mpr rfl⟩

/-! ## The parts of a table -/

/-- What the catalog tells of a table with some columns, if it can tell. -/
def Generator.derive? (g : Generator) (table : Text) (columns : List Schema.Column) :
    Option Schema.Metadata := do
  let database ← g.catalog.databaseName.toOption
  let relations ← (g.catalog.relations database table).toOption
  let unique ← (g.catalog.uniqueColumns database table).toOption
  return .derive table columns relations.1 unique.1

/-- What the catalog tells of a table, if its columns can be read. -/
def Generator.metadata? (g : Generator) (table : Text) : Option Schema.Metadata := do
  g.derive? table (← (g.catalog.columns table).toOption)

/-- Where the columns can be read, only the other questions to the catalog may be left unanswered.
-/
theorem metadata?_of_columns {g : Generator} {table : Text} {columns : List Schema.Column}
    (h : g.catalog.columns table = .ok columns) : g.metadata? table = g.derive? table columns := by
  unfold Generator.metadata?
  rw [h]
  rfl

/-- What the catalog tells is found if it can tell it and the console shows what there is to say. -/
theorem lookUp_ok_iff {α : Type} {g : Generator}
    {found : Except Schema.CatalogError (α × List Message)} {s s' : Session} {a : α} :
    lookUp g found s = .ok a s' ↔ ∃ messages, found = .ok (a, messages) ∧
      g.console.Shows messages ∧ s' = { s with messages := s.messages ++ messages } := by
  unfold lookUp
  constructor
  · intro h
    obtain ⟨⟨b, messages⟩, s₁, hfound, hrest⟩ := bind_ok_iff.mp h
    obtain ⟨_, s₂, hsay, hreturn⟩ := bind_ok_iff.mp hrest
    obtain ⟨rfl, rfl⟩ := pure_ok_iff.mp hreturn
    obtain ⟨hshows, rfl⟩ := say_ok_iff.mp hsay
    obtain ⟨htold, rfl⟩ := orFault_ok_iff.mp hfound
    exact ⟨messages, htold, hshows, rfl⟩
  · rintro ⟨messages, hfound, hshows, rfl⟩
    exact bind_ok_iff.mpr ⟨(a, messages), s, orFault_ok_iff.mpr ⟨hfound, rfl⟩,
      bind_ok_iff.mpr ⟨(), _, say_ok_iff.mpr ⟨hshows, rfl⟩, rfl⟩⟩

/-- What is derived for a table bears its name and that of its class. -/
theorem deriveMetadata_ok {g : Generator} {table : Text} {columns : List Schema.Column}
    {s s' : Session} {m : Schema.Metadata} (h : deriveMetadata g table columns s = .ok m s') :
    Idle s s' ∧ g.derive? table columns = some m ∧ m.tableName = table ∧
      m.className = Naming.classOfTable table := by
  unfold deriveMetadata at h
  obtain ⟨database, s₁, h₁, h⟩ := bind_ok_iff.mp h
  obtain ⟨relations, s₂, h₂, h⟩ := bind_ok_iff.mp h
  obtain ⟨unique, s₃, h₃, h⟩ := bind_ok_iff.mp h
  obtain ⟨rfl, rfl⟩ := pure_ok_iff.mp h
  obtain ⟨hdatabase, rfl⟩ := orFault_ok_iff.mp h₁
  obtain ⟨messages, hrelations, _, rfl⟩ := lookUp_ok_iff.mp h₂
  obtain ⟨messages', hunique, _, rfl⟩ := lookUp_ok_iff.mp h₃
  refine ⟨⟨⟨rfl, rfl⟩, rfl⟩, ?_, rfl, rfl⟩
  unfold Generator.derive?
  rw [hdatabase]
  show (do
    let relations ← (g.catalog.relations database table).toOption
    let unique ← (g.catalog.uniqueColumns database table).toOption
    return Schema.Metadata.derive table columns relations.1 unique.1) = _
  rw [hrelations, hunique]
  rfl

/-- The artifacts follow from the entries that are loaded first. -/
theorem resolveArtifacts_of_load {g : Generator} {s s' : Session} {loaded : Option (List Entry)}
    (h : loadStructure g s = .ok loaded s') (className : Text) :
    resolveArtifacts g className s = Step.orFault .artifact
      (Artifact.resolve g.settings (loaded.getD Structure.default) className) s' :=
  Program.bind_of_ok h _

/-- Once the entries are known, the files have no say in the artifacts of a table. -/
theorem resolveArtifacts_of_known {g : Generator} {s : Session} {entries : List Entry}
    (h : Known g s entries) (className : Text) :
    resolveArtifacts g className s =
      Step.orFault .artifact (Artifact.resolve g.settings entries className) s := by
  obtain ⟨loaded, hload, rfl⟩ := loadStructure_known h
  exact resolveArtifacts_of_load hload className

/-- The artifacts of a table follow from the entries, which are known then. -/
theorem resolveArtifacts_ok {g : Generator} {className : Text} {s s' : Session}
    {artifacts : List Artifact} (h : resolveArtifacts g className s = .ok artifacts s') :
    ∃ entries, Learns g s s' ∧ s'.prompts = s.prompts ∧ Known g s' entries ∧
      Artifact.resolve g.settings entries className = .ok artifacts := by
  unfold resolveArtifacts at h
  obtain ⟨loaded, s₁, hload, h⟩ := bind_ok_iff.mp h
  obtain ⟨hlearns, hprompts, _, hknown⟩ := loadStructure_ok hload
  obtain ⟨hresolve, rfl⟩ := orFault_ok_iff.mp h
  exact ⟨_, hlearns, hprompts, hknown, hresolve⟩

/-- The declaration of the route of a table, by the settings' template. -/
def declarationOf (g : Generator) (table : Text) : Except Pattern.Fault Text :=
  Pattern.fill g.attributes [("table", table), ("class_name", Naming.classOfTable table)]
    g.settings.routeTemplate

/-- Registering the route fills the template with the names of the table and registers what comes of
it; then it prints. -/
theorem registerRoute_ok {g : Generator} {m : Schema.Metadata} {s s' : Session} {added : Bool}
    (h : registerRoute g m s = .ok added s')
    (hclass : m.className = Naming.classOfTable m.tableName) :
    ∃ declaration, declarationOf g m.tableName = .ok declaration ∧
      Route.register g.settings.routesPath declaration s.tree = .ok added s'.tree ∧
      Idle { s with tree := s'.tree } s' := by
  unfold registerRoute at h
  have hdeclaration : Pattern.fill g.attributes (routeValues m) g.settings.routeTemplate =
      declarationOf g m.tableName := by
    unfold routeValues
    rw [hclass]
    rfl
  rw [hdeclaration] at h
  obtain ⟨declaration, s₁, hfill, h⟩ := bind_ok_iff.mp h
  obtain ⟨added', s₂, hfiles, h⟩ := bind_ok_iff.mp h
  obtain ⟨_, s₃, hsay, h⟩ := bind_ok_iff.mp h
  obtain ⟨rfl, rfl⟩ := pure_ok_iff.mp h
  obtain ⟨t, hregister, rfl⟩ := files_ok_iff.mp hfiles
  have hsaid := idle_of_ok (idle_say g.console _) hsay
  obtain ⟨hfilled, rfl⟩ := orFault_ok_iff.mp hfill
  refine ⟨declaration, hfilled, ?_, ⟨rfl, hsaid.entries⟩, hsaid.prompts⟩
  rw [hsaid.tree]
  exact hregister

/-- The course that generating a table with some columns takes from one session to another: what
is derived for the table, the artifacts that follow from the entries, their generation between two
sessions, and the registration of the route. -/
structure Course (g : Generator) (force : Bool) (table : Text) (columns : List Schema.Column)
    (s s' : Session) where
  metadata : Schema.Metadata
  entries : List Entry
  artifacts : List Artifact
  opened : Session
  outcomes : List Outcome
  closed : Session
  declaration : Text
  routeAdded : Bool
  derived : g.derive? table columns = some metadata
  tableName : metadata.tableName = table
  className : metadata.className = Naming.classOfTable table
  learns : Learns g s opened
  unasked : opened.prompts = s.prompts
  known : Known g opened entries
  resolved : Artifact.resolve g.settings entries metadata.className = .ok artifacts
  generated : artifacts.mapM (generateArtifact g metadata force) opened = .ok outcomes closed
  filled : declarationOf g table = .ok declaration
  registered : Route.register g.settings.routesPath declaration closed.tree = .ok routeAdded s'.tree
  rests : Idle { closed with tree := s'.tree } s'

/-- The report on the course. -/
def Course.report {g : Generator} {force : Bool} {table : Text} {columns : List Schema.Column}
    {s s' : Session} (c : Course g force table columns s s') : TableReport :=
  { table, className := c.metadata.className, outcomes := c.outcomes, routeAdded := c.routeAdded }

/-- Generating a table with some columns takes its course. -/
theorem generateReadable_ok {g : Generator} {force : Bool} {started : Float} {table : Text}
    {columns : List Schema.Column} {s s' : Session} {r : TableReport}
    (h : generateReadable g force started table columns s = .ok r s') :
    ∃ c : Course g force table columns s s', r = c.report := by
  unfold generateReadable at h
  obtain ⟨m, s₁, hm, h⟩ := bind_ok_iff.mp h
  obtain ⟨hidle₁, hderived, htable, hclass⟩ := deriveMetadata_ok hm
  obtain ⟨_, s₂, hsay, h⟩ := bind_ok_iff.mp h
  have hidle₂ := hidle₁.trans (idle_of_ok (idle_say g.console _) hsay)
  obtain ⟨_, s₃, hdiagnose, h⟩ := bind_ok_iff.mp h
  have hidle₃ := hidle₂.trans (idle_of_ok (idle_say g.console _) hdiagnose)
  obtain ⟨artifacts, s₄, hartifacts, h⟩ := bind_ok_iff.mp h
  obtain ⟨entries, hlearns, hprompts, hknown, hresolve⟩ := resolveArtifacts_ok hartifacts
  obtain ⟨outcomes, s₅, houtcomes, h⟩ := bind_ok_iff.mp h
  obtain ⟨added, s₆, hroute, h⟩ := bind_ok_iff.mp h
  obtain ⟨declaration, hfill, hregister, hidle₆⟩ :=
    registerRoute_ok hroute (hclass.trans (by rw [htable]))
  rw [htable] at hfill
  obtain ⟨clock, s₇, hclock, h⟩ := bind_ok_iff.mp h
  obtain ⟨elapsed, s₈, helapsed, h⟩ := bind_ok_iff.mp h
  obtain ⟨_, s₉, hline, h⟩ := bind_ok_iff.mp h
  obtain ⟨rfl, rfl⟩ := pure_ok_iff.mp h
  -- After the route only the clock is read and a line printed.
  have hclosing := ((idle_of_ok (quiet_readClock g).idle hclock).trans
    (idle_of_ok (idle_duration _) helapsed)).trans (idle_of_ok (idle_say g.console _) hline)
  rw [← hclosing.tree] at hregister hidle₆
  exact ⟨{
    metadata := m, entries, artifacts, opened := s₄, outcomes, closed := s₅, declaration
    routeAdded := added
    derived := hderived
    tableName := htable
    className := hclass
    learns := (hidle₃.learns g).trans hlearns
    unasked := hprompts.trans hidle₃.prompts
    known := hknown
    resolved := hresolve
    generated := houtcomes
    filled := hfill
    registered := hregister
    rests := ⟨⟨rfl, hclosing.entries.trans hidle₆.entries⟩, hclosing.prompts.trans hidle₆.prompts⟩
    }, rfl⟩

/-- The columns of the table can be read. -/
def Readable (g : Generator) (table : Text) : Prop :=
  ∃ columns, g.catalog.columns table = .ok columns

/-- Whether columns can be read is a question to the catalog that has an answer. -/
theorem readable_iff {g : Generator} {table : Text} :
    Readable g table ↔ (g.catalog.columns table).toOption.isSome = true := by
  unfold Readable
  cases g.catalog.columns table with
  | ok columns => exact ⟨fun _ => rfl, fun _ => ⟨columns, rfl⟩⟩
  | error e =>
    constructor
    · intro hparts
      cases hparts.choose_spec
    · exact nofun

instance (g : Generator) (table : Text) : Decidable (Readable g table) :=
  decidable_of_iff _ readable_iff.symm

/-- A table is generated if its columns can be read, and only reported otherwise. -/
theorem generateTable_ok {g : Generator} {force : Bool} {table : Text} {s s' : Session}
    {r : TableReport} (h : generateTable g force table s = .ok r s') :
    (∃ columns s₁, g.catalog.columns table = .ok columns ∧ Idle s s₁ ∧
      ∃ c : Course g force table columns s₁ s', r = c.report) ∨
    (¬ Readable g table ∧ Idle s s' ∧
      ∃ error, r = { table, error := some error }) := by
  unfold generateTable at h
  obtain ⟨started, s₁, hclock, h⟩ := bind_ok_iff.mp h
  have hidle := idle_of_ok (quiet_readClock g).idle hclock
  cases hcolumns : g.catalog.columns table with
  | ok columns =>
    simp only [hcolumns] at h
    exact Or.inl ⟨columns, s₁, rfl, hidle, generateReadable_ok h⟩
  | error error =>
    have hunreadable : ¬ Readable g table := by
      rw [readable_iff, hcolumns]
      exact Bool.false_ne_true
    refine Or.inr ⟨hunreadable, ?_⟩
    -- A breakdown is no error of the catalog and breaks the run off; of the other errors it tells.
    cases error with
    | breakdown cause =>
      simp only [hcolumns] at h
      cases h
    | _ =>
      simp only [hcolumns] at h
      obtain ⟨_, s₂, hsay, h⟩ := bind_ok_iff.mp h
      obtain ⟨rfl, rfl⟩ := pure_ok_iff.mp h
      exact ⟨hidle.trans (idle_of_ok (idle_say g.console _) hsay), _, rfl⟩

/-! ## Reports -/

/-- The artifacts that follow for a table from the entries, if its columns can be read. -/
def artifactsOf (g : Generator) (entries : List Entry) (table : Text) : List Artifact :=
  match g.catalog.columns table, Artifact.resolve g.settings entries (Naming.classOfTable table) with
  | .ok _, .ok artifacts => artifacts
  | _, _ => []

/-- The table that a report is about, and its artifacts. -/
def subject (r : TableReport) : Text × List Artifact := (r.table, r.outcomes.map Outcome.artifact)

/-- There is one outcome for each artifact, in the order of the artifacts. -/
theorem generateArtifacts_subject {g : Generator} {m : Schema.Metadata} {force : Bool}
    {as : List Artifact} {s s' : Session} {os : List Outcome}
    (h : as.mapM (generateArtifact g m force) s = .ok os s') :
    s'.entries = s.entries ∧ os.map Outcome.artifact = as := by
  have step : ∀ {a o s₁ s₂}, s₁.entries = s.entries → generateArtifact g m force a s₁ = .ok o s₂ →
      s₂.entries = s.entries ∧ o.artifact = a := by
    intro a o s₁ s₂ hsame hgenerate
    obtain ⟨p, s₃, written, t, hproduce, _, _, hidle, rfl⟩ := generateArtifact_ok hgenerate
    obtain ⟨hasked, _⟩ := produce_ok hproduce
    exact ⟨(hidle.entries.trans hasked.entries).trans hsame, rfl⟩
  have hmap := mapM_map (I := fun s₁ => s₁.entries = s.entries) (f := Outcome.artifact)
    (e := fun a => a) step h rfl
  rw [List.map_id'] at hmap
  exact hmap

/-- A report is about the table that was asked for and the artifacts that follow for it. -/
theorem generateTable_subject {g : Generator} {force : Bool} {table : Text} {s s' : Session}
    {r : TableReport} {entries : List Entry} (hknown : Known g s entries)
    (h : generateTable g force table s = .ok r s') :
    Known g s' entries ∧ subject r = (table, artifactsOf g entries table) := by
  unfold artifactsOf
  rcases generateTable_ok h with ⟨columns, s₁, hcolumns, hidle, c, rfl⟩ |
    ⟨hunreadable, hidle, error, rfl⟩
  · have hentries := (((hidle.learns g).trans c.learns).recalls.known hknown).unique c.known
    have hresolve := c.resolved
    -- The entries of the course are those that were known: a run knows one list of them.
    rw [hentries, c.className] at hresolve
    obtain ⟨hsame, hartifacts⟩ := generateArtifacts_subject c.generated
    refine ⟨(hentries ▸ c.known).of_entries (c.rests.entries.trans hsame), ?_⟩
    simp only [hcolumns, hresolve]
    unfold subject
    exact congrArg (table, ·) hartifacts
  · refine ⟨hknown.of_entries hidle.entries, ?_⟩
    cases hcolumns : g.catalog.columns table with
    | ok columns => exact absurd ⟨columns, hcolumns⟩ hunreadable
    | error e => rfl

end Scaffold.Run
