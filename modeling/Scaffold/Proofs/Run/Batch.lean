import Scaffold.Proofs.Run.Table
import Scaffold.Run.Batch

/-!
# What a run comes to

A run that returns has found the entries of the structure and has generated its tables by them; what
comes before and after is asking for models, reading the clock and printing (`generate_ok`).

A run is taken apart into three: what comes before the probe (`opening`), the probe, and what comes
after it (`course`). Only the opening and the tables matter for what a run leaves in files; the
probe and the clock are `Idle`. The equation `generate_eq` is the only place where the definition of
a run is opened.

What a report counts are its outcomes: `written` and `skipped` are sums over tables, and theorems
about them go by `Report.outcomes`, the list of all outcomes of a run (`written_eq`,
`written_add_skipped`).

At the end stands the generator of a small example, which other modules use for theirs.
-/

namespace Scaffold.Run

open Program (Leaves bind_ok_iff mapM_map pure_ok_iff)

/-! ## Reports -/

namespace Report

/-- All outcomes of a run, in their order. -/
def outcomes (r : Report) : List Outcome := r.tables.flatMap TableReport.outcomes

/-- An outcome is from the backend, from the stub, or skipped. -/
theorem count_written (os : List Outcome) :
    os.countP (·.status = .fromBackend) + os.countP (·.status = .fromStub) =
      os.countP (·.status ≠ .skipped) := by
  induction os with
  | nil => rfl
  | cons o os ih =>
    rw [List.countP_cons, List.countP_cons, List.countP_cons, ← ih]
    cases o.status <;> simp <;> omega

/-- The files written are counted by the outcomes that were not skipped. -/
theorem written_eq (r : Report) : r.written = r.outcomes.countP (·.status ≠ .skipped) := by
  unfold written outcomes
  induction r.tables with
  | nil => rfl
  | cons t ts ih =>
    rw [List.foldr_cons, ih, List.flatMap_cons, List.countP_append, ← count_written t.outcomes]
    rfl

/-- The files skipped are counted by the outcomes that were, over all tables. -/
theorem skipped_eq (r : Report) : r.skipped = r.outcomes.countP (·.status = .skipped) := by
  unfold skipped outcomes
  induction r.tables with
  | nil => rfl
  | cons t ts ih =>
    rw [List.foldr_cons, ih, List.flatMap_cons, List.countP_append]
    rfl

/-- Every outcome is counted once. -/
theorem written_add_skipped (r : Report) : r.written + r.skipped = r.outcomes.length := by
  rw [written_eq, skipped_eq, List.length_eq_countP_add_countP (·.status = .skipped), Nat.add_comm]
  congr 1
  apply List.countP_congr
  intro o _
  simp

end Report

/-- Exactly the tables whose columns can be read are generated. -/
theorem generateTables_succeeded {g : Generator} {force : Bool} {tables : List Text}
    {s s' : Session} {rs : List TableReport} (h : generateTables g force tables s = .ok rs s') :
    rs.any TableReport.succeeded = true ↔ ∃ table ∈ tables, Readable g table := by
  have hmap : rs.map TableReport.succeeded =
      tables.map fun table => (g.catalog.columns table).toOption.isSome := by
    refine (mapM_map (I := fun _ => True) ?_ h trivial).2
    intro table r s s' _ hgenerate
    refine ⟨trivial, Bool.eq_iff_iff.mpr ?_⟩
    rw [← readable_iff]
    rcases generateTable_ok hgenerate with ⟨columns, _, hcolumns, _, c, rfl⟩ |
      ⟨hunreadable, _, error, rfl⟩
    · exact ⟨fun _ => ⟨columns, hcolumns⟩, fun _ => rfl⟩
    · exact ⟨nofun, fun hreadable => absurd hreadable hunreadable⟩
  have hany := congrArg (List.any · id) hmap
  simp only [List.any_map, Function.id_comp] at hany
  rw [hany, List.any_eq_true]
  simp only [readable_iff]

/-! ## Runs -/

/-- A run reports on the tables it was asked for, each with its artifacts, in order; none is left
out and none comes twice. -/
theorem generateTables_subject {g : Generator} {force : Bool} {tables : List Text}
    {s s' : Session} {rs : List TableReport} {entries : List Entry} (hknown : Known g s entries)
    (h : generateTables g force tables s = .ok rs s') :
    rs.map subject = tables.map fun table => (table, artifactsOf g entries table) := by
  have hmap := mapM_map (I := fun s => Known g s entries) (f := subject)
    (e := fun table => (table, artifactsOf g entries table)) generateTable_subject h hknown
  exact hmap.2

/-- Saying which stubs there are only reads. -/
theorem idle_diagnoseStubs (g : Generator) : Leaves Idle (diagnoseStubs g) := by
  unfold diagnoseStubs
  split
  · refine idle_bind (idle_files ?_) fun names => (idle_say g.console _)
    exact (Files.reads_list _).bind fun names => Files.Reads.pure _
  · exact idle_pure ()

/-- Finding out whether the backend can be reached is idle, however that turns out. -/
theorem idle_probe (g : Generator) : Leaves Idle (probe g) := by
  unfold probe
  split
  · apply idle_bind (quiet_askModels g).idle
    intro reply
    split
    · apply idle_bind (quiet_askModels g).idle
      intro reply'
      exact idle_bind (idle_orFault _ _) fun found => (idle_say g.console _)
    · exact (idle_say g.console _)
  · exact (idle_say g.console _)

/-- What a run does before it asks whether the backend can be reached. -/
def opening (g : Generator) (tables : List Text) (force : Bool) : Step Unit := do
  let entries := (← loadStructure g).getD Structure.default
  let base ← Step.files (Files.resolve g.settings.baseDirectory)
  Step.say g.console [startPanel g base tables entries.length force]
  diagnoseStubs g

/-- What a run does afterwards. -/
def course (g : Generator) (tables : List Text) (force : Bool) : Step Report := do
  let started ← Step.readClock g
  let report : Report := ⟨← generateTables g force tables⟩
  let elapsed ← Step.duration ((← Step.readClock g) - started)
  Step.say g.console (summary g report elapsed)
  return report

/-- A run opens, asks for the backend, and takes its course. -/
theorem generate_eq (g : Generator) (tables : List Text) (force : Option Bool) :
    generate g tables force = (do
      opening g tables (force.getD g.settings.forceOverwrite)
      probe g
      course g tables (force.getD g.settings.forceOverwrite)) := by
  unfold generate opening course
  simp only [bind_assoc]

/-- A run opens by finding its entries. All else is printing. -/
theorem opening_loads {g : Generator} {tables : List Text} {force : Bool} {s s' : Session}
    (h : opening g tables force s = .ok () s') :
    ∃ loaded s₁, loadStructure g s = .ok loaded s₁ ∧ Idle s₁ s' := by
  unfold opening at h
  obtain ⟨loaded, s₁, hload, h⟩ := bind_ok_iff.mp h
  obtain ⟨base, s₂, hbase, h⟩ := bind_ok_iff.mp h
  obtain ⟨_, s₃, hstart, hstubs⟩ := bind_ok_iff.mp h
  exact ⟨loaded, s₁, hload, ((idle_of_ok (idle_files (Files.reads_resolve _)) hbase).trans
    (idle_of_ok (idle_say g.console _) hstart)).trans (idle_of_ok (idle_diagnoseStubs g) hstubs)⟩

/-- When a run has opened, its entries are known, and no file is different. -/
theorem opening_ok {g : Generator} {tables : List Text} {force : Bool} {s s' : Session}
    (h : opening g tables force s = .ok () s') :
    ∃ entries, Given g s entries ∧ Learns g s s' ∧ s'.prompts = s.prompts ∧ Known g s' entries := by
  obtain ⟨loaded, s₁, hload, hidle⟩ := opening_loads h
  obtain ⟨hlearns, hprompts, hgiven, hknown⟩ := loadStructure_ok hload
  exact ⟨_, hgiven, hlearns.trans (hidle.learns g), hidle.prompts.trans hprompts,
    hknown.of_entries hidle.entries⟩

/-- The course is the generation of the tables between two idle parts. -/
theorem course_ok {g : Generator} {tables : List Text} {force : Bool} {s s' : Session}
    {r : Report} (h : course g tables force s = .ok r s') :
    ∃ s₁ s₂, Idle s s₁ ∧ generateTables g force tables s₁ = .ok r.tables s₂ ∧ Idle s₂ s' := by
  unfold course at h
  obtain ⟨started, s₁, hclock, h⟩ := bind_ok_iff.mp h
  obtain ⟨rs, s₂, htables, h⟩ := bind_ok_iff.mp h
  obtain ⟨ended, s₃, hclock', h⟩ := bind_ok_iff.mp h
  obtain ⟨elapsed, s₄, helapsed, h⟩ := bind_ok_iff.mp h
  obtain ⟨_, s₅, hsummary, h⟩ := bind_ok_iff.mp h
  obtain ⟨rfl, rfl⟩ := pure_ok_iff.mp h
  exact ⟨s₁, s₂, idle_of_ok (quiet_readClock g).idle hclock, htables,
    ((idle_of_ok (quiet_readClock g).idle hclock').trans
      (idle_of_ok (idle_duration _) helapsed)).trans (idle_of_ok (idle_say g.console _) hsummary)⟩

/-- A run is generating its tables by given entries. All else is asking for models and printing. -/
theorem generate_ok {g : Generator} {tables : List Text} {force : Option Bool} {s s' : Session}
    {r : Report} (h : generate g tables force s = .ok r s') :
    ∃ entries s₁ s₂, Given g s entries ∧ Learns g s s₁ ∧ s₁.prompts = s.prompts ∧
      Known g s₁ entries ∧
      generateTables g (force.getD g.settings.forceOverwrite) tables s₁ = .ok r.tables s₂ ∧
      Idle s₂ s' := by
  rw [generate_eq] at h
  obtain ⟨_, s₁, hopening, h⟩ := bind_ok_iff.mp h
  obtain ⟨entries, hgiven, hlearns, hprompts, hknown⟩ := opening_ok hopening
  obtain ⟨_, s₂, hprobe, h⟩ := bind_ok_iff.mp h
  obtain ⟨s₃, s₄, hidle, htables, hclosing⟩ := course_ok h
  have hbefore := (idle_of_ok (idle_probe g) hprobe).trans hidle
  exact ⟨entries, s₃, s₄, hgiven, hlearns.trans (hbefore.learns g),
    hbefore.prompts.trans hprompts, hknown.of_entries hbefore.entries, htables, hclosing⟩

/-! ## A small example -/

/-- A generator for a single table with a single column, whose artifacts are in a structure file. -/
def usersGenerator (backend : Backend) (network : Inference.Network) : Generator where
  settings := { structureFile := some (Files.Path.ofText "structure.json") }
  backend
  catalog := { tables := [("users", { columns := [{ name := "id", type := .written "INTEGER" }] })] }
  network
  clock := fun reading => -Float.ofNat reading
  bundledStubs := ⟨.here, []⟩

/-- A file with a text. -/
def textFile (t : Text) : Files.Node := .file ((Utf8.encode t).toOption.getD [])

/-- A session in a directory with this structure file and some other entries. -/
def usersSession (structureText : Text) (others : List (Files.Address × Files.Node)) : Session where
  tree :=
    { workingDirectory := []
      entries := (["structure.json"], textFile structureText) :: others }

/-- A structure file that asks for one custom artifact. -/
def noteStructure : Text := "\x7b\"artifacts\": [\x7b\"type\": \"note\"\x7d]\x7d"

end Scaffold.Run
