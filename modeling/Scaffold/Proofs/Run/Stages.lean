import Scaffold.Proofs.Run.Batch

/-!
# The stages of an artifact

On its way to its file an artifact goes through stages, and its outcome keeps them. They follow a
machine (`Stage.next`, `Leads`) from the request to one of its ends:

* a request is prompted, and the prompt is answered or not;
* an answer is normalized, and then accepted or rejected;
* without an answer, or after a rejected one, the text is rendered from the stub;
* whatever the text is, it is tried to write it, and the file is written or skipped.

Which way an artifact takes is told by the reply of the backend: by whether it has something in it
and whether the class is declared there. Where the way ends is told by the target and by whether
files are replaced. The status follows from both (`Traced`).

Neither the way nor the text depends on anything else. From two sessions after the same prompts that
have the same stub, the same is produced (`produce_of_sameStub`), and two outcomes have the same
stages but for the last one, one with files replaced and one without (`stages_of_sameStub`). The
last stage is another: with a file at the target, it is `skipped` or `written` by the force.

Over a run, the backend is asked once for every outcome, in the order of the report
(`generateTables_prompts`). What is asked is told by the catalog, so the prompts of a run are known
from its reports even if the backend's replies are not.
-/

namespace Scaffold.Run

open Files (Tree)
open Program (mapM_collect ok_of_passes passes result result_of_ok)

/-! ## The machine -/

/-- The stages that may come after a stage. -/
def Stage.next : Stage → List Stage
  | requested => [prompted]
  | prompted => [answered, unanswered]
  | answered => [normalizing]
  | unanswered => [rendered]
  | normalizing => [accepted, rejected]
  | accepted => [writing]
  | rejected => [rendered]
  | rendered => [writing]
  | writing => [written, skipped]
  | written => []
  | skipped => []

/-- The stages lead from one to another, each to one that may come after it. -/
inductive Leads : Stage → List Stage → Stage → Prop where
  | arrived (stage : Stage) : Leads stage [stage] stage
  | step {stage last : Stage} {rest : List Stage} (next : Stage) :
    next ∈ stage.next → Leads next rest last → Leads stage (stage :: rest) last

/-- Whatever the verdict, its stages lead from the prompt to the attempt to write. -/
theorem Verdict.leads (verdict : Verdict) {last : Stage} {rest : List Stage}
    (h : Leads .writing rest last) : Leads .prompted (.prompted :: verdict.stages ++ rest) last := by
  cases verdict with
  | unanswered =>
    exact .step .unanswered (by decide) (.step .rendered (by decide) (.step .writing (by decide) h))
  | accepted source =>
    exact .step .answered (by decide) (.step .normalizing (by decide)
      (.step .accepted (by decide) (.step .writing (by decide) h)))
  | rejected =>
    exact .step .answered (by decide) (.step .normalizing (by decide)
      (.step .rejected (by decide) (.step .rendered (by decide) (.step .writing (by decide) h))))

/-! ## What the stages tell -/

/-- The stages of an unanswered prompt. -/
def unansweredStages : List Stage := [.unanswered, .rendered]

/-- The stages of an accepted reply. -/
def acceptedStages : List Stage := [.answered, .normalizing, .accepted]

/-- The stages of a rejected reply. -/
def rejectedStages : List Stage := [.answered, .normalizing, .rejected, .rendered]

/-- The stages tell whether there was an answer. -/
theorem Verdict.stages_unanswered_iff {verdict : Verdict} :
    verdict.stages = unansweredStages ↔ verdict = .unanswered := by
  cases verdict <;> simp [Verdict.stages, unansweredStages]

/-- The stages tell whether an answer was accepted, but not what its source was. -/
theorem Verdict.stages_accepted_iff {verdict : Verdict} :
    verdict.stages = acceptedStages ↔ ∃ source, verdict = .accepted source := by
  cases verdict <;> simp [Verdict.stages, acceptedStages]

/-- The stages tell a rejected answer from a missing one, although both end at the stub. -/
theorem Verdict.stages_rejected_iff {verdict : Verdict} :
    verdict.stages = rejectedStages ↔ verdict = .rejected := by
  cases verdict <;> simp [Verdict.stages, rejectedStages]

/-- An outcome has gone through the machine, by the way that the reply calls for, to the end that
the target and the force call for, and its status says so. -/
structure Traced (o : Outcome) (reply : Text) (existed force : Bool) (way : List Stage)
    (last : Stage) : Prop where
  stages : o.stages = [.requested, .prompted] ++ way ++ [.writing, last]
  leads : Leads .requested o.stages last
  ends : last.next = []
  unanswered : way = unansweredStages ↔ Text.isBlank reply = true
  accepted : way = acceptedStages ↔
    Source.declares (Source.ofReply reply) o.artifact.className = true
  rejected : way = rejectedStages ↔ Text.isBlank reply = false ∧
    Source.declares (Source.ofReply reply) o.artifact.className = false
  skipped : last = .skipped ↔ existed = true ∧ force = false
  written : last = .written ↔ ¬ (existed = true ∧ force = false)
  statusSkipped : o.status = .skipped ↔ last = .skipped
  statusBackend : o.status = .fromBackend ↔ way = acceptedStages ∧ last = .written
  statusStub : o.status = .fromStub ↔ way ≠ acceptedStages ∧ last = .written

/-- An artifact goes through the machine. -/
theorem generateArtifact_traced {g : Generator} {m : Schema.Metadata} {force : Bool}
    {a : Artifact} {s s' : Session} {o : Outcome} (h : generateArtifact g m force a s = .ok o s') :
    o.artifact = a ∧ ∃ p existed last, result (produce g a m) s = .ok p ∧
      Files.pathExists a.target s.tree = .ok existed s.tree ∧
      Traced o (g.reply s.prompts a m) existed force p.verdict.stages last := by
  obtain ⟨p, s₁, written, t, hproduce, hwrite, _, _, rfl⟩ := generateArtifact_ok h
  obtain ⟨hasked, hverdict, _⟩ := produce_ok hproduce
  obtain ⟨existed, hexisted, hwritten, _⟩ := Artifact.write_ok hwrite
  rw [hasked.tree] at hexisted
  refine ⟨rfl, p, existed, if written then .written else .skipped, result_of_ok hproduce, hexisted,
    ?_⟩
  have hskipped : (if written then Stage.written else .skipped) = .skipped ↔ written = false := by
    cases written <;> simp
  have hkept : (if written then Stage.written else .skipped) = .written ↔ written = true := by
    cases written <;> simp
  have haccepted : p.verdict.stages = acceptedStages ↔
      Source.declares (Source.ofReply (g.reply s.prompts a m)) a.className = true := by
    rw [Verdict.stages_accepted_iff, hverdict]
    exact Verdict.exists_accepted_iff
  -- The way after the prompt is that of the verdict, and ends with the attempt to write.
  have hlast : Leads .writing [.writing, if written then .written else .skipped]
      (if written then .written else .skipped) := by
    cases written <;> exact .step _ (by decide) (.arrived _)
  exact {
    stages := rfl
    leads := .step .prompted (by decide) (by simpa using p.verdict.leads hlast)
    ends := by cases written <;> rfl
    unanswered := by rw [Verdict.stages_unanswered_iff, hverdict]; exact Verdict.unanswered_iff
    accepted := haccepted
    rejected := by rw [Verdict.stages_rejected_iff, hverdict]; exact Verdict.rejected_iff
    skipped := hskipped.trans hwritten
    written := by rw [hkept, ← hwritten, Bool.not_eq_false]
    statusSkipped := statusOf_skipped_iff.trans hskipped.symm
    statusBackend := by
      rw [hkept, Verdict.stages_accepted_iff]
      exact statusOf_fromBackend_iff
    statusStub := by
      rw [hkept, ne_eq, Verdict.stages_accepted_iff]
      exact statusOf_fromStub_iff }

/-! ## What they do not depend on -/

/-- The same stands at the path of the stub of an artifact in both trees. -/
def SameStub (g : Generator) (a : Artifact) (t t' : Tree) : Prop :=
  result (Files.node? (Stub.path g.stubs a)) t' = result (Files.node? (Stub.path g.stubs a)) t

/-- The same is produced from trees with the same stub after the same prompts. -/
theorem produce_of_sameStub {g : Generator} {a : Artifact} {m : Schema.Metadata}
    {s s' : Session} (hprompts : s'.prompts = s.prompts) (hstub : SameStub g a s.tree s'.tree) :
    result (produce g a m) s' = result (produce g a m) s :=
  result_produce_congr g a m hprompts (result_load?_of_node? hstub)

/-- The stages before the last one are the same, whether files are replaced or not. -/
theorem stages_of_sameStub {g : Generator} {a : Artifact} {m : Schema.Metadata}
    {force force' : Bool} {s s' s₁ s₁' : Session} {o o' : Outcome}
    (hprompts : s'.prompts = s.prompts) (hstub : SameStub g a s.tree s'.tree)
    (h : generateArtifact g m force a s = .ok o s₁)
    (h' : generateArtifact g m force' a s' = .ok o' s₁') :
    o'.stages.dropLast = o.stages.dropLast := by
  obtain ⟨_, p, _, _, hp, _, htraced⟩ := generateArtifact_traced h
  obtain ⟨_, p', _, _, hp', _, htraced'⟩ := generateArtifact_traced h'
  rw [produce_of_sameStub hprompts hstub, hp] at hp'
  cases hp'
  rw [htraced.stages, htraced'.stages, List.dropLast_append_of_ne_nil (List.cons_ne_nil _ _),
    List.dropLast_append_of_ne_nil (List.cons_ne_nil _ _)]
  rfl

/-! ## The prompts of a run -/

/-- The prompt for an outcome of a table, if the catalog tells of the table. -/
def Generator.promptOf? (g : Generator) (table : Text) (o : Outcome) : Option Text :=
  (g.metadata? table).map (g.prompt o.artifact)

/-- One prompt was asked for every artifact. -/
theorem generateArtifacts_prompts {g : Generator} {m : Schema.Metadata} {force : Bool}
    {as : List Artifact} {s s' : Session} {os : List Outcome}
    (h : as.mapM (generateArtifact g m force) s = .ok os s') :
    s'.prompts = s.prompts ++ os.map fun o => g.prompt o.artifact m := by
  refine mapM_collect (R := fun s s' os => s'.prompts = s.prompts ++ os.map fun o =>
    g.prompt o.artifact m) ?_ ?_ ?_ h
  · intro s
    exact (List.append_nil _).symm
  · intro s s' s'' os os' hfirst hrest
    rw [hrest, hfirst, List.map_append, List.append_assoc]
  · intro a o s s' _ hgenerate
    obtain ⟨p, s₁, _, _, hproduce, _, _, hidle, rfl⟩ := generateArtifact_ok hgenerate
    obtain ⟨hasked, _⟩ := produce_ok hproduce
    exact hidle.prompts.trans hasked.prompts

/-- The prompts for the outcomes of reports were asked, in their order. -/
def AskedFor (g : Generator) (s s' : Session) (rs : List TableReport) : Prop :=
  ∃ asked, s'.prompts = s.prompts ++ asked ∧
    asked.map some = rs.flatMap fun r => r.outcomes.map (g.promptOf? r.table)

/-- A table asks for its artifacts in order, and a table that cannot be read for nothing. -/
theorem generateTable_prompts {g : Generator} {force : Bool} {table : Text} {s s' : Session}
    {r : TableReport} (h : generateTable g force table s = .ok r s') : AskedFor g s s' [r] := by
  rcases generateTable_ok h with ⟨columns, s₁, hcolumns, hidle, c, rfl⟩ | ⟨_, hidle, error, rfl⟩
  · have hasked := generateArtifacts_prompts c.generated
    refine ⟨c.outcomes.map fun o => g.prompt o.artifact c.metadata, ?_, ?_⟩
    · rw [c.rests.prompts, ← hidle.prompts, ← c.unasked]
      exact hasked
    · have hprompt : g.promptOf? table = fun o => some (g.prompt o.artifact c.metadata) := by
        funext o
        unfold Generator.promptOf?
        rw [metadata?_of_columns hcolumns, c.derived]
        rfl
      rw [List.map_map, List.flatMap_singleton]
      exact congrArg (c.outcomes.map ·) hprompt.symm
  · exact ⟨[], by rw [hidle.prompts, List.append_nil], rfl⟩

/-- So the prompts of a run are those for the outcomes in its reports, one after another. -/
theorem generateTables_prompts {g : Generator} {force : Bool} {tables : List Text}
    {s s' : Session} {rs : List TableReport} (h : generateTables g force tables s = .ok rs s') :
    AskedFor g s s' rs := by
  refine mapM_collect (R := AskedFor g) ?_ ?_ ?_ h
  · intro s
    exact ⟨[], (List.append_nil _).symm, rfl⟩
  · intro s s' s'' rs rs' hfirst hrest
    obtain ⟨asked, hprompts, hasked⟩ := hfirst
    obtain ⟨asked', hprompts', hasked'⟩ := hrest
    refine ⟨asked ++ asked', ?_, ?_⟩
    · rw [hprompts', hprompts, List.append_assoc]
    · rw [List.map_append, List.flatMap_append, hasked, hasked']
  · intro table r s s' _ hgenerate
    exact generateTable_prompts hgenerate

/-- Generating an artifact goes through the machine of stages. The way is told by the reply, the
end by the target and the force, and the status by both. What is produced, and with it the way,
depends neither on the force nor on any file but the stub. Over a run the backend is asked the
prompt for every outcome, each once, in the order of the report. -/
theorem generate_follows_stages (g : Generator) :
    (∀ a m force s o s', generateArtifact g m force a s = .ok o s' →
      o.artifact = a ∧ ∃ p existed last, result (produce g a m) s = .ok p ∧
        Files.pathExists a.target s.tree = .ok existed s.tree ∧
        Traced o (g.reply s.prompts a m) existed force p.verdict.stages last) ∧
    (∀ a m s s', s'.prompts = s.prompts → SameStub g a s.tree s'.tree →
      result (produce g a m) s' = result (produce g a m) s ∧
      ∀ force force' o o' s₁ s₁', generateArtifact g m force a s = .ok o s₁ →
        generateArtifact g m force' a s' = .ok o' s₁' →
        o'.stages.dropLast = o.stages.dropLast) ∧
    (∀ tables force s r s', generate g tables force s = .ok r s' →
      ∃ asked, s'.prompts = s.prompts ++ asked ∧
        asked.map some = r.tables.flatMap fun t => t.outcomes.map (g.promptOf? t.table)) := by
  refine ⟨?_, ?_, ?_⟩
  · intro a m force s o s' h
    exact generateArtifact_traced h
  · intro a m s s' hprompts hstub
    refine ⟨produce_of_sameStub hprompts hstub, ?_⟩
    intro force force' o o' s₁ s₁' h h'
    exact stages_of_sameStub hprompts hstub h h'
  · intro tables force s r s' h
    obtain ⟨entries, s₁, s₂, _, _, hprompts, _, htables, hidle⟩ := generate_ok h
    obtain ⟨asked, hasked, hfor⟩ := generateTables_prompts htables
    exact ⟨asked, by rw [hidle.prompts, hasked, hprompts], hfor⟩

/-- A file that stands there is left alone or replaced at the last stage only, and the run asks for
its one artifact once. -/
theorem generate_follows_stages_users :
    let g := usersGenerator (.custom "fixed" fun _ _ => "class UserNote \x7b\x7d") .unreachable
    let a : Artifact :=
      { kind := .custom, name := "note", className := "UserNote",
        target := Files.Path.ofText "UserNote.php" }
    let empty := usersSession noteStructure []
    let full := usersSession noteStructure [(["UserNote.php"], textFile "class UserNote")]
    ∃ o o' s₁ s₁' r s' asked,
      generateArtifact g default false a full = .ok o s₁ ∧ o.status = .skipped ∧
      generateArtifact g default true a empty = .ok o' s₁' ∧ o'.status = .fromBackend ∧
      o'.stages.dropLast = o.stages.dropLast ∧
      Leads .requested o.stages .skipped ∧
      generate g ["users"] none empty = .ok r s' ∧ s'.prompts = asked ∧ asked.length = 1 := by
  intro g a empty full
  obtain ⟨htraced, hindependent, hasked⟩ := generate_follows_stages g
  have hskips : passes (generateArtifact g default false a)
      (fun o _ => o.status = .skipped) full = true := by
    decide +kernel
  have hwrites : passes (generateArtifact g default true a)
      (fun o _ => o.status = .fromBackend) empty = true := by
    decide +kernel
  have hruns : passes (generate g ["users"] none)
      (fun r _ => (r.tables.flatMap fun t => t.outcomes.map (g.promptOf? t.table)).length = 1)
      empty = true := by
    decide +kernel
  obtain ⟨o, s₁, hskip, hskipped⟩ := ok_of_passes hskips
  obtain ⟨o', s₁', hwrite, hwritten⟩ := ok_of_passes hwrites
  obtain ⟨r, s', hrun, hone⟩ := ok_of_passes hruns
  have hskipped := of_decide_eq_true hskipped
  obtain ⟨_, hsame⟩ := hindependent a default full empty rfl rfl
  obtain ⟨_, p, existed, last, _, _, hthis⟩ := htraced a default false full o s₁ hskip
  obtain rfl := hthis.statusSkipped.mp hskipped
  obtain ⟨asked, hprompts, hfor⟩ := hasked ["users"] none empty r s' hrun
  refine ⟨o, o', s₁, s₁', r, s', asked, hskip, hskipped, hwrite, of_decide_eq_true hwritten,
    hsame false true o o' s₁ s₁' hskip hwrite, hthis.leads, hrun, hprompts, ?_⟩
  have hlength := congrArg List.length hfor
  rw [List.length_map] at hlength
  exact hlength.trans (of_decide_eq_true hone)

end Scaffold.Run
