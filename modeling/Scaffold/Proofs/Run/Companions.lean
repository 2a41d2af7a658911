import Mathlib.Logic.Function.Basic
import Scaffold.Proofs.Agreement
import Scaffold.Proofs.Run.Batch

/-!
# Companions of a run

A run may have a companion: another run with the same settings, catalog and console, but perhaps
with another backend on another network and with another clock. What is the same in the sessions of
both is left to a bond between them, and so is which faults of the run its companion has to share,
and what it may print in place of what the run prints (`Companions`). The companion may pass over
tables that leave no trace in the bond. If it keeps up in producing texts, it keeps up over the
whole course of the run (`follows_course`).

There are two kinds of bonds. Under the one both runs print the same, and one fault breaks off both
of them; under the other the run is known to return, and its companion prints only what the run has
printed as well, or is excused where the console refuses something else.

The module goes through the steps of a run one by one and shows of each that the companion follows
(`Follows`): reading the clock, printing, asking the catalog, working on files, and then what is put
together from these. Only for producing texts nothing is shown. That is a premise of everything
after it (`Produces`), with a view of the outcomes that says how much of them has to agree.

Reports are compared as they are seen in the view. A view may leave out the stages of outcomes, for
a text may be come to in different ways (`Outcome.bare`), but not their statuses, since what is
printed about a table counts those.
-/

namespace Scaffold.Run

open Files (Access)
open Inference (Network)
open Program (Bond Counts Followed Follows bind_of_error bind_of_ok)

variable {α : Type}

/-! ## Bonds -/

/-- A fault that can break off a run when its tables are generated by known entries. -/
def Late (g : Generator) (entries : List Entry) : Fault → Prop
  | .noDatabase => False
  | .structureFile _ => False
  | .catalog _ => True
  | .files _ => True
  | .artifact error =>
    ∃ className, Artifact.resolve g.settings entries className = .error error
  | .route _ => True
  | .models _ => False
  | .clock => True
  | .console m reason => g.console.refusal? m = some reason

/-- The second text may stand for the first in everything that is printed. -/
def Reworded (V : List Message → List Message → Prop) (t t' : Text) : Prop :=
  ∀ wording : Text → List Message, V (wording t) (wording t')

/-- The sessions that go together have the same files, and their entries are known; how often they
have read their clocks is in a relation `T`, and what is printed is in a relation `V`. -/
structure Companions (g : Generator) (clock : Nat → Float) (entries : List Entry)
    (T : Nat → Nat → Prop) (V : List Message → List Message → Prop) (B : Bond Fault Session) :
    Prop where
  tree : ∀ {s s'}, B.states s s' → s'.tree = s.tree
  known : ∀ {s s'}, B.states s s' → Known g s entries ∧ Known g s' entries
  readings : ∀ {s s'}, B.states s s' → T s.readings s'.readings
  same : ∀ ms, V ms ms
  prints : ∀ {ms ms'}, V ms ms' → Follows B (fun _ => True) Eq (Step.say g.console ms)
    (Step.say g.console ms')
  changed : ∀ {s s'} t, B.states s s' → B.states { s with tree := t } { s' with tree := t }
  ticked : ∀ {s s'}, B.states s s' →
    B.states { s with readings := s.readings + 1 } { s' with readings := s'.readings + 1 }
  duration : ∀ {i i' j j'}, T i i' → T j j' → Follows B (fun _ => True) (Reworded V)
    (Step.duration (g.clock j - g.clock i)) (Step.duration (clock j' - clock i'))
  errors : ∀ {fault}, Late g entries fault → B.counts fault → B.errors fault fault

/-- Two readings of the clocks whose numbers are in the relation. -/
def Readings (clock clock' : Nat → Float) (T : Nat → Nat → Prop) (x x' : Float) : Prop :=
  ∃ i i', T i i' ∧ x = clock i ∧ x' = clock' i'

/-- The outcome of an artifact by the verdict on the reply and by whether it was written. -/
def outcomeOf (a : Artifact) (verdict : Verdict) (written : Bool) : Outcome where
  artifact := a
  status := statusOf verdict written
  stages := [.requested, .prompted] ++ verdict.stages ++
    [.writing, if written then .written else .skipped]

/-- The same text was produced, and nothing else is seen in an outcome. -/
structure SameText (view : Outcome → Outcome) (p p' : Produced) : Prop where
  text : p'.text = p.text
  seen : ∀ a written, view (outcomeOf a p.verdict written) = view (outcomeOf a p'.verdict written)

/-- What is seen of a report, given what is seen of an outcome. -/
def TableReport.seen (view : Outcome → Outcome) (r : TableReport) : TableReport :=
  { r with outcomes := r.outcomes.map view }

/-- An outcome without the stages that led to it. -/
def Outcome.bare (o : Outcome) : Outcome := { o with stages := [] }

/-- Everything is seen. -/
theorem bare_of_id : Outcome.bare.FactorsThrough id := fun _ _ h => congrArg Outcome.bare h

/-- Stages are not counted. -/
theorem count_bare (t : TableReport) (status : Status) :
    (t.seen Outcome.bare).count status = t.count status := by
  unfold TableReport.count TableReport.seen
  rw [List.countP_map]
  rfl

/-- What is counted of a run does not depend on the stages. -/
theorem written_bare (ts : List TableReport) :
    (Report.mk (ts.map (TableReport.seen Outcome.bare))).written = (Report.mk ts).written := by
  unfold Report.written
  simp only [List.foldr_map, count_bare]

/-- So the skipped outcomes of a run are told without the stages. -/
theorem skipped_bare (ts : List TableReport) :
    (Report.mk (ts.map (TableReport.seen Outcome.bare))).skipped = (Report.mk ts).skipped := by
  unfold Report.skipped
  simp only [List.foldr_map, count_bare]

/-- The line on a table is told without the stages. -/
theorem tableLine_bare (t : TableReport) (elapsed : Text) :
    tableLine (t.seen Outcome.bare) elapsed = tableLine t elapsed := by
  unfold tableLine
  simp only [count_bare]
  rfl

/-- The row of a table in the summary is told without the stages. -/
theorem summaryRow_bare (t : TableReport) : summaryRow (t.seen Outcome.bare) = summaryRow t := by
  unfold summaryRow
  simp only [count_bare]
  rfl

/-- The stages are not printed at the end of a run. -/
theorem summary_bare (g : Generator) (ts : List TableReport) (elapsed : Text) :
    summary g ⟨ts.map (TableReport.seen Outcome.bare)⟩ elapsed = summary g ⟨ts⟩ elapsed := by
  have hsucceeded : (Report.mk (ts.map (TableReport.seen Outcome.bare))).succeeded =
      (Report.mk ts).succeeded :=
    List.all_map
  have hfailed : ((ts.map (TableReport.seen Outcome.bare)).filter fun t => !t.succeeded).map
      TableReport.table = (ts.filter fun t => !t.succeeded).map TableReport.table := by
    rw [List.filter_map, List.map_map]
    rfl
  unfold summary summaryTable endPanel
  simp only [List.map_map, Function.comp_def, summaryRow_bare, hfailed, hsucceeded, written_bare,
    skipped_bare]

section

variable {view : Outcome → Outcome}

/-- What looks the same is the same but for the stages, if the view leaves out no more. -/
theorem seen_bare (hview : Outcome.bare.FactorsThrough view) {r r' : TableReport}
    (h : r.seen view = r'.seen view) : r.seen Outcome.bare = r'.seen Outcome.bare := by
  obtain ⟨f, hf⟩ := (Function.factorsThrough_iff _).mp hview
  have hseen : ∀ r : TableReport, r.seen Outcome.bare = (r.seen view).seen f := by
    intro r
    unfold TableReport.seen
    rw [hf, List.map_map]
  rw [hseen, hseen, h]

/-- The line about a table does not tell the stages. -/
theorem tableLine_of_seen (hview : Outcome.bare.FactorsThrough view) {r r' : TableReport}
    (h : r.seen view = r'.seen view) (elapsed : Text) :
    tableLine r' elapsed = tableLine r elapsed := by
  rw [← tableLine_bare r', ← seen_bare hview h, tableLine_bare]

/-- Two runs whose reports look the same have the same summary, if the view leaves out the stages at
most. -/
theorem summary_of_seen (hview : Outcome.bare.FactorsThrough view) {rs rs' : List TableReport}
    (h : rs'.map (TableReport.seen view) = rs.map (TableReport.seen view)) (g : Generator)
    (elapsed : Text) : summary g ⟨rs'⟩ elapsed = summary g ⟨rs⟩ elapsed := by
  have hbare : Function.FactorsThrough (TableReport.seen Outcome.bare) (TableReport.seen view) :=
    fun _ _ hseen => seen_bare hview hseen
  obtain ⟨f, hf⟩ := (Function.factorsThrough_iff _).mp hbare
  rw [← summary_bare g rs', hf, ← List.map_map, h, List.map_map, ← hf, summary_bare]

end

section

variable {g : Generator} {clock : Nat → Float} {entries : List Entry} {T : Nat → Nat → Prop}
  {V : List Message → List Message → Prop} {B : Bond Fault Session} {backend : Backend}
  {network : Network} {view : Outcome → Outcome} {fit : Outcome → Prop}

/-! ## Single steps -/

/-- The same is printed. -/
theorem follows_say (hB : Companions g clock entries T V B) (ms : List Message) :
    Follows B (fun _ => True) Eq (Step.say g.console ms) (Step.say g.console ms) :=
  hB.prints (hB.same ms)

/-- Both runs read their clocks at the same times, but may read different times. -/
theorem follows_readClock (hB : Companions g clock entries T V B) :
    Follows B (fun _ => True) (Readings g.clock clock T) (Step.readClock g)
      (Step.readClock { g with backend, network, clock }) := by
  intro s s' hs _
  exact .ok ⟨s.readings, s'.readings, hB.readings hs, rfl, rfl⟩ (hB.ticked hs)

/-- Of two readings each run makes its own duration, and the wording of one stands for that of the
other. -/
theorem follows_duration (hB : Companions g clock entries T V B)
    {started started' ended ended' : Float}
    (hstarted : Readings g.clock clock T started started')
    (hended : Readings g.clock clock T ended ended') :
    Follows B (fun _ => True) (Reworded V) (Step.duration (ended - started))
      (Step.duration (ended' - started')) := by
  obtain ⟨i, i', hi, rfl, rfl⟩ := hstarted
  obtain ⟨j, j', hj, rfl, rfl⟩ := hended
  exact hB.duration hi hj

/-- A computation gives both runs the same, or fails for both. -/
theorem follows_orFault (hB : Companions g clock entries T V B) {ε : Type} (fault : ε → Fault)
    (value : Except ε α) (h : ∀ e, value = .error e → Late g entries (fault e)) :
    Follows B (fun _ => True) Eq (Step.orFault fault value) (Step.orFault fault value) := by
  cases value with
  | ok a => exact Follows.pure rfl
  | error e => exact fun s s' hs hcounts => .error (hB.errors (h e rfl) hcounts) hs

/-- Work on the files does the same in both runs, since the files are the same. -/
theorem follows_files (hB : Companions g clock entries T V B) (act : Access α) :
    Follows B (fun _ => True) Eq (Step.files act) (Step.files act) := by
  intro s s' hs hcounts
  unfold Step.files at hcounts ⊢
  rw [hB.tree hs]
  cases hact : act s.tree with
  | ok a t => exact .ok rfl (hB.changed t hs)
  | error failure t =>
    rw [hact] at hcounts
    exact .error (hB.errors trivial hcounts) (hB.changed t hs)

/-- Once the entries are known, both runs have the same artifacts for a class. -/
theorem follows_resolveArtifacts (hB : Companions g clock entries T V B) (className : Text) :
    Follows B (fun _ => True) Eq (resolveArtifacts g className)
      (resolveArtifacts { g with backend, network, clock } className) := by
  intro s s' hs hcounts
  obtain ⟨hknown, hknown'⟩ := hB.known hs
  show Followed _ _ _ (resolveArtifacts g className s')
  rw [resolveArtifacts_of_known hknown] at hcounts ⊢
  rw [resolveArtifacts_of_known hknown']
  exact follows_orFault hB Fault.artifact _ (fun e he => ⟨className, he⟩) s s' hs hcounts

/-! ## The parts of a table -/

/-- The catalog answers both runs alike, and both print what there is to say about its failures. -/
theorem follows_lookUp (hB : Companions g clock entries T V B)
    (found : Except Schema.CatalogError (α × List Message)) :
    Follows B (fun _ => True) Eq (lookUp g found)
      (lookUp { g with backend, network, clock } found) := by
  refine Follows.bind (follows_orFault hB Fault.catalog found fun _ _ => trivial) ?_
  rintro ⟨a, messages⟩ _ rfl
  exact Follows.bind (follows_say hB messages) fun _ _ _ => Follows.pure rfl

/-- So both derive the same metadata. -/
theorem follows_deriveMetadata (hB : Companions g clock entries T V B) (table : Text)
    (columns : List Schema.Column) :
    Follows B (fun _ => True) Eq (deriveMetadata g table columns)
      (deriveMetadata { g with backend, network, clock } table columns) := by
  unfold deriveMetadata
  refine Follows.bind (follows_orFault hB Fault.catalog _ fun _ _ => trivial) ?_
  rintro database _ rfl
  refine Follows.bind (follows_lookUp hB (g.catalog.relations database table)) ?_
  rintro relations _ rfl
  refine Follows.bind (follows_lookUp hB (g.catalog.uniqueColumns database table)) ?_
  rintro unique _ rfl
  exact Follows.pure rfl

/-- Both register the same route. -/
theorem follows_registerRoute (hB : Companions g clock entries T V B) (m : Schema.Metadata) :
    Follows B (fun _ => True) Eq (registerRoute g m)
      (registerRoute { g with backend, network, clock } m) := by
  unfold registerRoute
  refine Follows.bind (follows_orFault hB Fault.route _ fun _ _ => trivial) ?_
  rintro declaration _ rfl
  apply Follows.bind (follows_files hB _)
  rintro added _ rfl
  exact Follows.bind (follows_say hB [routeLine declaration added]) fun _ _ _ => Follows.pure rfl

/-- A stub is rendered to the same text in both runs. -/
theorem follows_renderStub (hB : Companions g clock entries T V B) (a : Artifact)
    (m : Schema.Metadata) :
    Follows B (fun _ => True) Eq (renderStub g a m)
      (renderStub { g with backend, network, clock } a m) := by
  refine Follows.bind (follows_files hB (Stub.render g.stubs g.namespaces a m)) ?_
  rintro ⟨text, messages⟩ _ rfl
  exact Follows.bind (follows_say hB messages) fun _ _ _ => Follows.pure rfl

/-- Where both backends have the same answer, they say the same. -/
theorem follows_askBackend (hB : Companions g clock entries T V B) {prompt : Text}
    (h : Follows B (fun _ => True) Eq (Step.sendPrompt g prompt)
      (Step.sendPrompt { g with backend, network, clock } prompt)) :
    Follows B (fun _ => True) Eq (Step.askBackend g prompt)
      (Step.askBackend { g with backend, network, clock } prompt) := by
  refine Follows.bind h ?_
  rintro answer _ rfl
  exact Follows.bind (follows_say hB answer.messages) fun _ _ _ => Follows.pure rfl

/-- Where both backends have the same answers, the same is produced. -/
theorem follows_produce (hB : Companions g clock entries T V B)
    (h : ∀ prompt, Follows B (fun _ => True) Eq (Step.sendPrompt g prompt)
      (Step.sendPrompt { g with backend, network, clock } prompt))
    (a : Artifact) (m : Schema.Metadata) :
    Follows B (fun _ => True) Eq (produce g a m)
      (produce { g with backend, network, clock } a m) := by
  refine Follows.bind (follows_say hB _) fun _ _ _ => ?_
  refine Follows.bind (follows_askBackend hB (h (g.prompt a m))) ?_
  rintro reply _ rfl
  refine Follows.bind (follows_say hB (remarks g a reply (.of reply a.className))) fun _ _ _ => ?_
  have hstub : Follows B (fun _ => True) Eq
      (renderStub g a m >>= fun text => pure (Produced.mk text (.of reply a.className)))
      (renderStub { g with backend, network, clock } a m >>= fun text =>
        pure (Produced.mk text (.of reply a.className))) := by
    refine Follows.bind (follows_renderStub hB a m) ?_
    rintro text _ rfl
    exact Follows.pure rfl
  split
  · exact Follows.pure rfl
  · exact hstub

/-! ## Tables -/

/-- The companion produces the same texts, wherever what is produced makes an outcome that is
fit. -/
def Produces (g g' : Generator) (B : Bond Fault Session) (fit : Outcome → Prop)
    (view : Outcome → Outcome) : Prop :=
  ∀ a m, Follows B (fun p => ∃ written, fit (outcomeOf a p.verdict written)) (SameText view)
    (produce g a m) (produce g' a m)

/-- Passing over a table leaves companions together: it cannot be read, neither another reading of
the clock nor another message matters, and no fault has to be followed. -/
structure Skippable (g : Generator) (B : Bond Fault Session) (table : Text) : Prop where
  unreadable : ∃ name reason, g.catalog.columns table = .error (.unreadable name reason)
  passed : ∀ {s s'} ms, B.states s s' →
    B.states { s with messages := ms, readings := s.readings + 1 } s'
  counts : ∀ fault, ¬ B.counts fault

/-- If the companion keeps up in producing the text of an artifact, its outcome looks the same: the
targets are in the same state, and the text written is the same. -/
theorem follows_generateArtifact (hB : Companions g clock entries T V B)
    (hview : Outcome.bare.FactorsThrough view) (hfit : ∀ fault, B.counts fault → ∀ o, fit o)
    (h : Produces g { g with backend, network, clock } B fit view)
    (a : Artifact) (m : Schema.Metadata) (force : Bool) :
    Follows B fit (fun o o' => view o = view o') (generateArtifact g m force a)
      (generateArtifact { g with backend, network, clock } m force a) := by
  unfold generateArtifact
  refine (h a m).bind_fit ?_ ?_
  · intro p s hcounts
    have hfault : ∀ fault, B.counts fault → ∃ written, fit (outcomeOf a p.verdict written) :=
      fun fault hfault => ⟨true, hfit fault hfault _⟩
    refine hcounts.through hfault fun {written _} hcounts => ?_
    exact hcounts.through hfault fun hcounts => ⟨written, hcounts⟩
  · intro p p' hsame
    rw [hsame.text]
    refine Follows.bind (follows_files hB _) ?_
    -- Both have the same text by now, so that the same is written, and the line about it is the
    -- same as well.
    rintro written _ rfl
    have hstatus : statusOf p'.verdict written = statusOf p.verdict written :=
      congrArg Outcome.status (hview (hsame.seen a written)).symm
    rw [hstatus]
    refine Follows.bind (follows_say hB [outcomeLine g a (statusOf p.verdict written)])
      fun _ _ _ => Follows.pure ?_
    have hseen := hsame.seen a written
    unfold outcomeOf at hseen
    rw [hstatus] at hseen
    exact hseen

/-- If it keeps up in producing texts, it keeps up over a table that can be read. -/
theorem follows_generateReadable (hB : Companions g clock entries T V B)
    (hview : Outcome.bare.FactorsThrough view) (hfit : ∀ fault, B.counts fault → ∀ o, fit o)
    (h : Produces g { g with backend, network, clock } B fit view)
    (force : Bool) {started started' : Float} (hstarted : Readings g.clock clock T started started')
    (table : Text) (columns : List Schema.Column) :
    Follows B (fun r => ∀ o ∈ r.outcomes, fit o)
      (fun r r' => r.table = table ∧ r.seen view = r'.seen view)
      (generateReadable g force started table columns)
      (generateReadable { g with backend, network, clock } force started' table columns) := by
  unfold generateReadable
  refine Follows.bind (follows_deriveMetadata hB table columns) ?_
  rintro m _ rfl
  refine Follows.bind (follows_say hB (tableHeader m)) fun _ _ _ => ?_
  refine Follows.bind (follows_say hB _) fun _ _ _ => ?_
  refine Follows.bind (follows_resolveArtifacts hB m.className) ?_
  rintro artifacts _ rfl
  refine (Follows.mapM hfit fun a _ =>
    follows_generateArtifact hB hview hfit h a m force).bind_fit ?_ ?_
  · -- What follows the artifacts leaves their outcomes as they are.
    intro outcomes s hcounts
    have hfault : ∀ fault, B.counts fault → ∀ o ∈ outcomes, fit o :=
      fun fault hfault o _ => hfit fault hfault o
    refine hcounts.through hfault fun hcounts => ?_
    refine hcounts.through hfault fun hcounts => ?_
    refine hcounts.through hfault fun hcounts => ?_
    exact hcounts.through hfault fun hcounts => hcounts
  · intro outcomes outcomes' hseen
    refine Follows.bind (follows_registerRoute hB m) ?_
    rintro added _ rfl
    refine Follows.bind (follows_readClock hB) ?_
    intro ended ended' hended
    refine Follows.bind (follows_duration hB hstarted hended) ?_
    intro elapsed elapsed' hreworded
    have hreports : TableReport.seen view
          { table, className := m.className, outcomes, routeAdded := added } =
        TableReport.seen view
          { table, className := m.className, outcomes := outcomes', routeAdded := added } := by
      unfold TableReport.seen
      rw [hseen]
    refine Follows.bind (hB.prints ?_) fun _ _ _ => Follows.pure ⟨rfl, hreports⟩
    rw [tableLine_of_seen hview hreports]
    exact hreworded fun t => [tableLine _ t]

/-- A table that cannot be read is reported by both. -/
theorem follows_generateTable (hB : Companions g clock entries T V B)
    (hview : Outcome.bare.FactorsThrough view) (hfit : ∀ fault, B.counts fault → ∀ o, fit o)
    (h : Produces g { g with backend, network, clock } B fit view) (force : Bool) (table : Text) :
    Follows B (fun r => ∀ o ∈ r.outcomes, fit o)
      (fun r r' => r.table = table ∧ r.seen view = r'.seen view)
      (generateTable g force table)
      (generateTable { g with backend, network, clock } force table) := by
  unfold generateTable
  refine Follows.bind (follows_readClock hB) ?_
  intro started started' hstarted
  cases g.catalog.columns table with
  | ok columns =>
    simp only
    exact follows_generateReadable hB hview hfit h force hstarted table columns
  | error error =>
    cases error with
    | breakdown cause =>
      simp only
      exact fun s s' hs hcounts => .error (hB.errors trivial hcounts) hs
    | unreadable name reason =>
      simp only
      exact Follows.bind (follows_say hB [failureLine (.unreadable name reason)]) fun _ _ _ =>
        Follows.pure ⟨rfl, rfl⟩

/-- A table that cannot be read is reported at once, if the console shows why. -/
theorem generateTable_unreadable {g : Generator} {force : Bool} {table name reason : Text}
    (h : g.catalog.columns table = .error (.unreadable name reason)) (s : Session) :
    (∃ ms, generateTable g force table s =
      .ok { table, error := some (Schema.ColumnsError.unreadable name reason).message }
        { s with messages := ms, readings := s.readings + 1 }) ∨
    ∃ fault s', generateTable g force table s = .error fault s' ∧ Refused g.console fault := by
  unfold generateTable
  rw [h]
  rcases say_cases g.console [failureLine (.unreadable name reason)] with
    ⟨_, hsay⟩ | ⟨_, m, _, why, _, _, hrefused, hsay⟩
  · exact Or.inl ⟨_, bind_of_ok (hsay _) _⟩
  · exact Or.inr ⟨_, _, bind_of_error (hsay _) _, m, why, rfl, hrefused⟩

/-! ## Whole runs -/

/-- The companion keeps up over all the tables that are kept, if it does in producing texts. -/
theorem follows_course (hB : Companions g clock entries T V B)
    (hview : Outcome.bare.FactorsThrough view) (hfit : ∀ fault, B.counts fault → ∀ o, fit o)
    (h : Produces g { g with backend, network, clock } B fit view) (keep : Text → Bool)
    (hkeep : (∀ table, keep table = true) ∨ ∀ ms ms', V ms ms')
    (hskip : ∀ table, keep table = false → Skippable g B table) (tables : List Text)
    (force : Bool) :
    Follows B (fun r => ∀ t ∈ r.tables, ∀ o ∈ t.outcomes, fit o)
      (fun r r' => r'.tables.map (TableReport.seen view) =
        (r.tables.filter fun t => keep t.table).map (TableReport.seen view))
      (course g tables force)
      (course { g with backend, network, clock } (tables.filter keep) force) := by
  have htables : Follows B (fun rs => ∀ t ∈ rs, ∀ o ∈ t.outcomes, fit o)
      (fun rs rs' => rs'.map (TableReport.seen view) =
        (rs.filter fun t => keep t.table).map (TableReport.seen view))
      (generateTables g force tables)
      (generateTables { g with backend, network, clock } force (tables.filter keep)) := by
    refine Follows.mapM_filter keep (fun t : TableReport => keep t.table)
      (fun fault hfault _ o _ => hfit fault hfault o) ?_ ?_
    · intro table _ hpassed s s' hs
      have hskippable := hskip table hpassed
      obtain ⟨name, reason, hcolumns⟩ := hskippable.unreadable
      rcases generateTable_unreadable hcolumns s with
        ⟨ms, hgenerate⟩ | ⟨fault, s₁, hgenerate, _⟩
      · exact Or.inl ⟨_, _, hgenerate, hpassed, hskippable.passed ms hs⟩
      · exact Or.inr ⟨_, _, hgenerate, hskippable.counts fault⟩
    · intro table _ hkept
      refine (follows_generateTable hB hview hfit h force table).mono (fun _ => id) ?_
      rintro r r' ⟨rfl, hseen⟩
      exact ⟨hkept, hseen⟩
  unfold course
  refine Follows.bind (follows_readClock hB) ?_
  intro started started' hstarted
  refine htables.bind_fit ?_ ?_
  · -- What is left to do is to tell of the reports.
    intro rs s hcounts
    have hfault : ∀ fault, B.counts fault → ∀ t ∈ rs, ∀ o ∈ t.outcomes, fit o :=
      fun fault hfault t _ o _ => hfit fault hfault o
    refine hcounts.through hfault fun hcounts => ?_
    refine hcounts.through hfault fun hcounts => ?_
    exact hcounts.through hfault fun hcounts => hcounts
  · intro rs rs' hseen
    refine Follows.bind (follows_readClock hB) ?_
    intro ended ended' hended
    refine Follows.bind (follows_duration hB hstarted hended) ?_
    intro elapsed elapsed' hreworded
    refine Follows.bind (hB.prints ?_) fun _ _ _ => Follows.pure hseen
    rcases hkeep with hall | hany
    · -- All tables are kept, and the summary of the companion differs by the time only.
      rw [List.filter_eq_self.mpr fun r _ => hall r.table] at hseen
      show V _ (summary g _ elapsed')
      rw [summary_of_seen hview hseen]
      exact hreworded fun t => summary g _ t
    · exact hany _ _

/-- The same where no table is passed over. -/
theorem follows_course_all (hB : Companions g clock entries T V B)
    (hview : Outcome.bare.FactorsThrough view) (hfit : ∀ fault, B.counts fault → ∀ o, fit o)
    (h : Produces g { g with backend, network, clock } B fit view) (tables : List Text)
    (force : Bool) :
    Follows B (fun r => ∀ t ∈ r.tables, ∀ o ∈ t.outcomes, fit o)
      (fun r r' => r'.tables.map (TableReport.seen view) = r.tables.map (TableReport.seen view))
      (course g tables force) (course { g with backend, network, clock } tables force) := by
  have hall := follows_course hB hview hfit h (fun _ => true) (Or.inl fun _ => rfl) nofun tables
    force
  simp only [Program.filter_all] at hall
  exact hall

end

end Scaffold.Run
