import Scaffold.Proofs.Artifact.Usable
import Scaffold.Proofs.Run.Abreast

/-!
# What the check of the structure is good for

A run checks its structure before the first table and uses it for every table. If the entries that
pass the check are usable, there is one artifact for every name, and a run breaks off for other
reasons only (the files, the catalog, the console and so on). If not, there is none, and a run comes
to its end only if it has no table whose columns can be read (`structure_suffices_iff`). The check
does not look at the options of an entry, so both can happen.

Whether the entries are usable does not depend on the table. `AllUsable` speaks of the entries
alone, and for every class name it is equivalent to there being artifacts; so the run breaks off at
its first table that can be read, or at none.

The faults of a run are gone through once, from its opening to its last table. A fault is about the
structure if it comes from the file, from the check or from an entry that gives no artifact
(`Fault.OfStructure`); every step is shown to have other faults only, or to have these under the
condition that an entry is not usable (`Late`). `Faults` is the property of steps with which this is
done, and the later modules on faults use it as well.
-/

namespace Scaffold.Run

open Files (Access)
open Program (FailsOnly bind_error_iff error_of_fails fails mapM_members ok_of_passes passes)

variable {α β : Type}

/-! ## The faults of a step -/

/-- Every fault of the step is of one sort. -/
def Faults (P : Fault → Prop) (act : Step α) : Prop :=
  ∀ s s' fault, act s = .error fault s' → P fault

section

variable {P : Fault → Prop}

/-- Two steps one after the other have the faults of both. -/
theorem Faults.bind {act : Step α} {next : α → Step β} (h : Faults P act)
    (hnext : ∀ a, Faults P (next a)) : Faults P (act >>= next) :=
  FailsOnly.bind h hnext

/-- A step that always gives a result has no faults. -/
theorem faults_of_returns {act : Step α} (h : ∀ s, ∃ a s', act s = .ok a s') : Faults P act :=
  FailsOnly.of_returns h

/-- A quiet step has no faults. -/
theorem Quiet.faults {act : Step α} (h : Quiet act) : Faults P act := by
  refine faults_of_returns fun s => ?_
  obtain ⟨a, s', hact, _⟩ := h s
  exact ⟨a, s', hact⟩

/-- Printing fails for messages that the console refuses. -/
theorem faults_say {c : Console} {ms : List Message}
    (h : ∀ m ∈ ms, ∀ reason, c.refusal? m = some reason → P (.console m reason)) :
    Faults P (Step.say c ms) := by
  intro s s' fault hfault
  obtain ⟨m, hm, reason, rfl, hrefused⟩ := say_error hfault
  exact h m hm reason hrefused

/-- Work on the files fails as that work does. -/
theorem faults_files {act : Access α} (h : ∀ {failure t t'}, act t = .error failure t' →
    P (.files failure)) : Faults P (Step.files act) := by
  intro s s' fault hfault
  unfold Step.files at hfault
  cases hact : act s.tree with
  | ok a t =>
    rw [hact] at hfault
    cases hfault
  | error failure t =>
    rw [hact] at hfault
    cases hfault
    exact h hact

/-- A computation fails by its error. -/
theorem faults_orFault {ε : Type} {fault : ε → Fault} {value : Except ε α}
    (h : ∀ e, value = .error e → P (fault e)) : Faults P (Step.orFault fault value) := by
  cases value with
  | ok a => exact faults_of_returns fun s => ⟨a, s, rfl⟩
  | error e =>
    intro s s' raised hfault
    cases hfault
    exact h e rfl

end

/-! ## Before the first table -/

/-- Whatever is wrong with a structure file, it is said of the structure file. -/
theorem faults_loadStructure (g : Generator) :
    Faults (fun fault => ∃ error, fault = .structureFile error) (loadStructure g) := by
  unfold loadStructure
  split
  next => exact faults_of_returns fun s => ⟨none, s, rfl⟩
  next path _ =>
    refine Faults.bind (faults_of_returns fun s => ⟨s, s, rfl⟩) fun s => ?_
    split
    next entries _ => exact faults_of_returns fun s => ⟨some entries, s, rfl⟩
    next =>
      refine Faults.bind (faults_files ?_) fun found => ?_
      · intro failure t t' hload
        obtain ⟨found, hfound⟩ := Structure.load_returns path t
        rw [hfound] at hload
        cases hload
      · refine Faults.bind (faults_orFault fun error _ => ⟨error, rfl⟩) fun entries => ?_
        exact faults_of_returns fun s => ⟨some entries, _, rfl⟩

section

variable {P : Fault → Prop} {g : Generator}
  (hconsole : ∀ m reason, g.console.refusal? m = some reason → P (.console m reason))

include hconsole

/-- Saying which stubs there are may fail at the files or at the console. -/
theorem faults_diagnoseStubs (hfiles : ∀ failure, P (.files failure)) :
    Faults P (diagnoseStubs g) := by
  unfold diagnoseStubs
  split
  · exact (faults_files fun _ => hfiles _).bind fun names => faults_say fun m _ => hconsole m
  · exact faults_of_returns fun s => ⟨(), s, rfl⟩

/-- Probing may fail because of what a server answers, or at the console. -/
theorem faults_probe (hmodels : ∀ cause, P (.models cause)) : Faults P (probe g) := by
  unfold probe
  split
  · refine Faults.bind (quiet_askModels g).faults fun reply => ?_
    split
    · refine Faults.bind (quiet_askModels g).faults fun reply' => ?_
      exact Faults.bind (faults_orFault fun cause _ => hmodels cause) fun _ =>
        faults_say fun m _ => hconsole m
    · exact faults_say fun m _ => hconsole m
  · exact faults_say fun m _ => hconsole m

end

/-- What breaks off a run that has its entries. -/
theorem generate_fault {g : Generator} {s s₁ s' : Session} {loaded : Option (List Entry)}
    (hload : loadStructure g s = .ok loaded s₁) {tables : List Text} {force : Option Bool}
    {fault : Fault} (h : generate g tables force s = .error fault s') :
    (∃ failure, fault = .files failure) ∨ (∃ cause, fault = .models cause) ∨
      Late g (loaded.getD Structure.default) fault := by
  rw [generate_eq] at h
  rcases bind_error_iff.mp h with hopening | ⟨_, s₂, hopening, h⟩
  · unfold opening at hopening
    rw [Program.bind_of_ok hload] at hopening
    -- The entries are found, so what is left can only fail at the files and at the console.
    have hrest : Faults (fun fault => (∃ failure, fault = .files failure) ∨
        (∃ cause, fault = .models cause) ∨ Late g (loaded.getD Structure.default) fault) (do
        let base ← Step.files (Files.resolve g.settings.baseDirectory)
        Step.say g.console [startPanel g base tables (loaded.getD Structure.default).length
          (force.getD g.settings.forceOverwrite)]
        diagnoseStubs g) := by
      refine (faults_files fun _ => Or.inl ⟨_, rfl⟩).bind fun base => ?_
      refine (faults_say fun _ _ _ hrefused => Or.inr (Or.inr hrefused)).bind fun _ => ?_
      exact faults_diagnoseStubs (fun _ _ hrefused => Or.inr (Or.inr hrefused))
        fun failure => Or.inl ⟨failure, rfl⟩
    exact hrest s₁ s' fault hopening
  · rcases bind_error_iff.mp h with hprobe | ⟨_, s₃, hprobe, h⟩
    · refine Or.inr (faults_probe (P := fun fault => (∃ cause, fault = .models cause) ∨
        Late g (loaded.getD Structure.default) fault) ?_ ?_ s₂ s' fault hprobe)
      · exact fun _ _ hrefused => Or.inr hrefused
      · exact fun cause => Or.inl ⟨cause, rfl⟩
    · -- Neither the opening nor the probe changes the entries by which the tables are generated.
      obtain ⟨loaded', s₁', hload', hidle⟩ := opening_loads hopening
      rw [hload] at hload'
      cases hload'
      obtain ⟨_, _, _, hknown⟩ := loadStructure_ok hload
      have hidle' := hidle.trans (idle_of_ok (idle_probe g) hprobe)
      exact Or.inr (Or.inr (course_late (hknown.of_entries hidle'.entries) h))

/-! ## Completeness -/

/-- The fault says that the structure is unfit. -/
def Fault.OfStructure : Fault → Prop
  | .structureFile _ => True
  | .artifact _ => True
  | _ => False

/-- If all entries are usable, no fault after the structure was loaded is about the structure. -/
theorem not_ofStructure_of_late {g : Generator} {entries : List Entry} {fault : Fault}
    (husable : AllUsable entries) (h : Late g entries fault) : ¬ fault.OfStructure := by
  cases fault with
  | artifact error =>
    obtain ⟨className, herror⟩ := h
    obtain ⟨artifacts, hartifacts⟩ :
        ∃ artifacts, Artifact.resolve g.settings entries className = .ok artifacts :=
      Artifact.resolve_ok_iff.mpr husable
    rw [herror] at hartifacts
    cases hartifacts
  | structureFile error => exact h.elim
  | _ => exact id

/-- Entries that have passed the check give one artifact for every name if they are usable, and none
otherwise. -/
theorem resolveArtifacts_iff_usable {g : Generator} {s s₁ : Session}
    {loaded : Option (List Entry)} (hload : loadStructure g s = .ok loaded s₁) (className : Text) :
    (∃ artifacts s', resolveArtifacts g className s = .ok artifacts s' ∧
      Artifact.OnePerName (loaded.getD Structure.default) artifacts) ↔
      AllUsable (loaded.getD Structure.default) := by
  have hresolve : (∃ artifacts, Artifact.resolve g.settings (loaded.getD Structure.default)
      className = .ok artifacts) ↔ AllUsable (loaded.getD Structure.default) :=
    Artifact.resolve_ok_iff
  rw [← hresolve]
  rw [resolveArtifacts_of_load hload]
  constructor
  · intro hparts
    obtain ⟨artifacts, s', h, _⟩ := hparts
    exact ⟨artifacts, (orFault_ok_iff.mp h).1⟩
  · intro hparts
    obtain ⟨artifacts, h⟩ := hparts
    exact ⟨artifacts, s₁, orFault_ok_iff.mpr ⟨h, rfl⟩, Artifact.resolve_onePerName h⟩

/-- A table that can be read and is generated needs usable entries. -/
theorem generateTable_usable {g : Generator} {entries : List Entry} {force : Bool} {table : Text}
    {r : TableReport} {s s' : Session} (hknown : Known g s entries)
    (h : generateTable g force table s = .ok r s') :
    Known g s' entries ∧ (Readable g table → AllUsable entries) := by
  refine ⟨(generateTable_subject hknown h).1, fun hreadable => ?_⟩
  rcases generateTable_ok h with ⟨columns, s₁, _, hidle, c, rfl⟩ | ⟨hunreadable, _⟩
  · have hentries := (((hidle.learns g).trans c.learns).recalls.known hknown).unique c.known
    exact Artifact.resolve_ok_iff.mp ⟨c.artifacts, hentries ▸ c.resolved⟩
  · exact absurd hreadable hunreadable

/-- A run that comes to its end, with a table whose columns could be read, had usable entries. -/
theorem usable_of_generate {g : Generator} {s s₁ s' : Session} {loaded : Option (List Entry)}
    (hload : loadStructure g s = .ok loaded s₁) {tables : List Text} {force : Option Bool}
    {r : Report} (h : generate g tables force s = .ok r s') {table : Text} (hmem : table ∈ tables)
    (hreadable : Readable g table) : AllUsable (loaded.getD Structure.default) := by
  obtain ⟨entries, s₂, s₃, hgiven, _, _, hknown, htables, _⟩ := generate_ok h
  obtain ⟨_, _, hloaded, _⟩ := loadStructure_ok hload
  rw [← hgiven.unique hloaded]
  have hall := mapM_members (I := fun s => Known g s entries)
    (P := fun table => Readable g table → AllUsable entries) generateTable_usable htables hknown
  exact hall table hmem hreadable

/-- Either the structure is refused, or it is good for what follows exactly if its entries are
usable: then there is one artifact for every name, whatever the table, and no run breaks off for the
structure. Otherwise there are no artifacts, and no run comes to its end that has a table whose
columns can be read. -/
theorem structure_suffices_iff (g : Generator) (s : Session) :
    (∃ error s', loadStructure g s = .error (.structureFile error) s') ∨
    ∃ loaded s', loadStructure g s = .ok loaded s' ∧
      (∀ className, (∃ artifacts s'', resolveArtifacts g className s = .ok artifacts s'' ∧
        Artifact.OnePerName (loaded.getD Structure.default) artifacts) ↔
          AllUsable (loaded.getD Structure.default)) ∧
      (AllUsable (loaded.getD Structure.default) → ∀ {tables force fault s''},
        generate g tables force s = .error fault s'' → ¬ fault.OfStructure) ∧
      ∀ {tables force r s''}, generate g tables force s = .ok r s'' →
        (∃ table ∈ tables, Readable g table) → AllUsable (loaded.getD Structure.default) := by
  cases hload : loadStructure g s with
  | error fault s' =>
    obtain ⟨error, rfl⟩ := faults_loadStructure g _ _ _ hload
    exact Or.inl ⟨error, s', rfl⟩
  | ok loaded s' =>
    refine Or.inr ⟨loaded, s', rfl, resolveArtifacts_iff_usable hload, ?_, ?_⟩
    · intro husable tables force fault s'' h
      rcases generate_fault hload h with ⟨failure, rfl⟩ | ⟨cause, rfl⟩ | hlate
      · exact id
      · exact id
      · exact not_ofStructure_of_late husable hlate
    · intro tables force r s'' h hparts
      obtain ⟨table, hmem, hreadable⟩ := hparts
      exact usable_of_generate hload h hmem hreadable

/-- An entry whose path is a number passes the check, but gives no artifact, and breaks off the run
at its first table. -/
theorem checked_structure_breaks_off :
    let g := usersGenerator .none .unreachable
    let s := usersSession "\x7b\"artifacts\": [\x7b\"type\": \"policy\", \"path\": 5\x7d]\x7d" []
    passes (loadStructure g) (fun _ _ => true) s = true ∧
      fails (generate g ["users"] none) (fun fault => fault matches .artifact (.pathKind _)) s =
        true ∧
      ¬ ((∃ error s', loadStructure g s = .error (.structureFile error) s') ∨
        ∃ artifacts s', resolveArtifacts g "User" s = .ok artifacts s') := by
  intro g s
  have hload : passes (loadStructure g) (fun _ _ => true) s = true := by
    decide +kernel
  have hgenerate : fails (generate g ["users"] none)
      (fun fault => fault matches .artifact (.pathKind _)) s = true := by
    decide +kernel
  have hresolve : fails (resolveArtifacts g "User")
      (fun fault => fault matches .artifact (.pathKind _)) s = true := by
    decide +kernel
  refine ⟨hload, hgenerate, ?_⟩
  rintro (⟨error, s', herror⟩ | ⟨artifacts, s', hartifacts⟩)
  · obtain ⟨loaded, s₁, hloaded, _⟩ := ok_of_passes hload
    rw [hloaded] at herror
    cases herror
  · obtain ⟨fault, s₁, hfault, _⟩ := error_of_fails hresolve
    rw [hfault] at hartifacts
    cases hartifacts

end Scaffold.Run
