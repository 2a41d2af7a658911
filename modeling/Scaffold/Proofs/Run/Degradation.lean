import Scaffold.Proofs.Run.Beside
import Scaffold.Proofs.Run.Stages

/-!
# Useless backends

A backend none of whose replies is accepted is as good as none: silence, commentary and code for
other classes all lead to the stub of the artifact. The run comes to what it comes to without a
backend, but for the stages on the way (`useless_backend_is_none`): the files are the same, and so
are the reports, if stages are left out of them (`Outcome.bare`).

It is enough that the replies of this one run are useless (`Useless`); what else the backend could
have said does not matter. That the outcomes tell of every reply whether it was accepted is the
matter of the first part: replies and outcomes are tallied one by one along the run (`Tallies`).

The run without a backend prints other things. It says that no model is used instead of asking the
server for its models, and it names another backend in its first panel. Both messages have to be
shown (`ShowsWithout`); everything else that it prints the first run has printed as well.

The two runs are gone through side by side (`generate_beside`), with an accepted reply as the one
thing that would part them.
-/

namespace Scaffold.Run

open Program (Follows mapM_collect ok_of_passes passes)

/-! ## Replies -/

/-- The replies of the backend to prompts that are asked one after another. -/
def Generator.replies (g : Generator) : (earlier prompts : List Text) → List Text
  | _, [] => []
  | earlier, prompt :: rest =>
    (g.backend.ask g.network earlier prompt).text :: g.replies (earlier ++ [prompt]) rest

/-- Replies to later prompts may depend on the earlier ones. -/
theorem replies_append (g : Generator) (earlier prompts prompts' : List Text) :
    g.replies earlier (prompts ++ prompts') =
      g.replies earlier prompts ++ g.replies (earlier ++ prompts) prompts' := by
  induction prompts generalizing earlier with
  | nil => rw [List.append_nil]; rfl
  | cons prompt rest ih =>
    show _ :: g.replies (earlier ++ [prompt]) (rest ++ prompts') = _
    rw [ih, List.append_assoc]
    rfl

/-- There is a reply, perhaps without anything in it, to every prompt. -/
theorem replies_length (g : Generator) (earlier prompts : List Text) :
    (g.replies earlier prompts).length = prompts.length := by
  induction prompts generalizing earlier with
  | nil => rfl
  | cons prompt rest ih => exact congrArg (· + 1) (ih _)

/-- The prompts of a later session that an earlier one did not have. -/
def newPrompts (s s' : Session) : List Text := s'.prompts.drop s.prompts.length

/-- None of the replies in a run holds a source text that declares the class of the artifact for
which it was asked. -/
def Useless (g : Generator) (s s' : Session) (r : Report) : Prop :=
  ∀ p ∈ (g.replies s.prompts (newPrompts s s')).zip r.outcomes,
    Source.declares (Source.ofReply p.1) p.2.artifact.className = false

instance (g : Generator) (s s' : Session) (r : Report) : Decidable (Useless g s s' r) :=
  inferInstanceAs (Decidable (∀ p ∈ (g.replies s.prompts (newPrompts s s')).zip r.outcomes,
    Source.declares (Source.ofReply p.1) p.2.artifact.className = false))

/-! ## Which replies were accepted -/

/-- One prompt was asked for every outcome, and its stages tell whether the reply was accepted. -/
def Tallies (g : Generator) (s s' : Session) (os : List Outcome) : Prop :=
  ∃ prompts, s'.prompts = s.prompts ++ prompts ∧ prompts.length = os.length ∧
    ∀ p ∈ (g.replies s.prompts prompts).zip os, Stage.accepted ∈ p.2.stages ↔
      Source.declares (Source.ofReply p.1) p.2.artifact.className = true

/-- Without prompts there are no outcomes to tally with them. -/
theorem Tallies.nil {g : Generator} {s s' : Session} (h : s'.prompts = s.prompts) :
    Tallies g s s' [] :=
  ⟨[], h.trans (List.append_nil _).symm, rfl, nofun⟩

/-- The tallies of two parts of a run make up that of both. -/
theorem Tallies.trans {g : Generator} {s s' s'' : Session} {os os' : List Outcome}
    (h : Tallies g s s' os) (h' : Tallies g s' s'' os') : Tallies g s s'' (os ++ os') := by
  obtain ⟨prompts, hprompts, hlength, htells⟩ := h
  obtain ⟨prompts', hprompts', hlength', htells'⟩ := h'
  refine ⟨prompts ++ prompts', by rw [hprompts', hprompts, List.append_assoc], ?_, ?_⟩
  · rw [List.length_append, List.length_append, hlength, hlength']
  · intro p hp
    rw [replies_append, List.zip_append ((replies_length g _ _).trans hlength), ← hprompts] at hp
    rcases List.mem_append.mp hp with hfirst | hrest
    · exact htells p hfirst
    · exact htells' p hrest

/-- A verdict leads through the stage of accepted replies if it accepts. -/
theorem accepted_mem_stages {a : Artifact} {verdict : Verdict} {written : Bool} :
    Stage.accepted ∈ (outcomeOf a verdict written).stages ↔
      ∃ source, verdict = .accepted source := by
  cases verdict <;> cases written <;> simp [outcomeOf, Verdict.stages]

/-- An artifact asks for one reply, and its status tells whether that was accepted. -/
theorem generateArtifact_tallies {g : Generator} {m : Schema.Metadata} {force : Bool}
    {a : Artifact} {s s' : Session} {o : Outcome} (h : generateArtifact g m force a s = .ok o s') :
    Tallies g s s' [o] := by
  obtain ⟨p, s₁, written, t, hproduce, _, _, hidle, rfl⟩ := generateArtifact_ok h
  obtain ⟨hasked, hverdict, _⟩ := produce_ok hproduce
  refine ⟨[g.prompt a m], hidle.prompts.trans hasked.prompts, rfl, ?_⟩
  intro pair hpair
  obtain rfl := List.mem_singleton.mp hpair
  refine (accepted_mem_stages (a := a)).trans ?_
  rw [hverdict]
  exact Verdict.exists_accepted_iff

/-- So the outcomes of a table tally with the replies to its prompts. -/
theorem generateTable_tallies {g : Generator} {force : Bool} {table : Text} {s s' : Session}
    {t : TableReport} (h : generateTable g force table s = .ok t s') :
    Tallies g s s' t.outcomes := by
  rcases generateTable_ok h with ⟨columns, s₁, _, hidle, c, rfl⟩ | ⟨_, hidle, error, rfl⟩
  · have hartifacts : Tallies g c.opened c.closed c.outcomes :=
      mapM_collect (fun s => .nil rfl) Tallies.trans (fun _ => generateArtifact_tallies)
        c.generated
    have hbefore : Tallies g s c.opened [] := .nil (c.unasked.trans hidle.prompts)
    have hall := (hbefore.trans hartifacts).trans (.nil c.rests.prompts)
    rw [List.nil_append, List.append_nil] at hall
    exact hall
  · exact .nil hidle.prompts

/-- The outcomes of a run tally with all the replies it was given. -/
theorem generate_tallies {g : Generator} {tables : List Text} {force : Option Bool}
    {s s' : Session} {r : Report} (h : generate g tables force s = .ok r s') :
    Tallies g s s' r.outcomes := by
  obtain ⟨entries, s₁, s₂, _, _, hprompts, _, htables, hidle⟩ := generate_ok h
  have hrun : Tallies g s₁ s₂ (r.tables.flatMap TableReport.outcomes) := by
    refine mapM_collect (R := fun s s' ts => Tallies g s s' (ts.flatMap TableReport.outcomes))
      (fun s => .nil rfl) ?_ ?_ htables
    · intro s s' s'' ts ts' hfirst hrest
      rw [List.flatMap_append]
      exact hfirst.trans hrest
    · intro table t s s' _ hgenerate
      rw [List.flatMap_singleton]
      exact generateTable_tallies hgenerate
  have hbefore : Tallies g s s₁ [] := .nil hprompts
  have hall := (hbefore.trans hrun).trans (.nil hidle.prompts)
  rw [List.nil_append, List.append_nil] at hall
  exact hall

/-- No outcome went through the stage of accepted replies if the replies were useless. -/
theorem Useless.not_accepted {g : Generator} {tables : List Text} {force : Option Bool}
    {s s' : Session} {r : Report} (huseless : Useless g s s' r)
    (h : generate g tables force s = .ok r s') : ∀ o ∈ r.outcomes, Stage.accepted ∉ o.stages := by
  obtain ⟨prompts, hprompts, hlength, htells⟩ := generate_tallies h
  have hnew : newPrompts s s' = prompts := by
    unfold newPrompts
    rw [hprompts, List.drop_left]
  intro o ho haccepted
  have hoverlap : ((g.replies s.prompts prompts).zip r.outcomes).map Prod.snd = r.outcomes :=
    List.map_snd_zip (Nat.le_of_eq (by rw [replies_length, hlength]))
  rw [← hoverlap] at ho
  obtain ⟨⟨reply, _⟩, hmem, rfl⟩ := List.mem_map.mp ho
  have hdeclares := (htells _ hmem).mp haccepted
  rw [huseless _ (hnew ▸ hmem)] at hdeclares
  cases hdeclares

/-! ## Without a backend -/

/-- Less is printed beside a run, and nothing is excused. -/
theorem leeway_less {g : Generator} :
    Leeway g g.clock (fun i i' => i' = i) (fun ms ms' => ms' ⊆ ms) fun _ => False where
  refl := fun _ => rfl
  tick := fun h => congrArg (· + 1) h
  tells := by
    rintro i _ j _ t rfl rfl htold hnot
    rw [htold] at hnot
    cases hnot
  reworded := by
    rintro i _ j _ t t' rfl rfl htold htold'
    rw [htold] at htold'
    cases htold'
    exact fun wording => List.Subset.refl _
  same := fun ms => List.Subset.refl ms
  shown := by
    intro ms ms' hless hshows m hm reason hrefused
    rw [hshows m (hless hm)] at hrefused
    cases hrefused

/-- Without a backend the same text is produced as from a reply that is not accepted. -/
theorem produces_none {g : Generator} {entries : List Entry} :
    Produces g { g with backend := .none }
      (besideBond (fun i i' => i' = i) g entries fun _ => False)
      (fun o => Stage.accepted ∉ o.stages) Outcome.bare := by
  have hB : Companions g g.clock entries (fun i i' => i' = i) (fun ms ms' => ms' ⊆ ms)
      (besideBond (fun i i' => i' = i) g entries fun _ => False) :=
    companions_beside leeway_less
  intro a m
  refine Follows.bind (follows_say hB _) fun _ _ _ => ?_
  have hask : Follows (besideBond (fun i i' => i' = i) g entries fun _ => False) (fun _ => True)
      (fun _ reply' => reply' = []) (Step.askBackend g (g.prompt a m))
      (Step.askBackend { g with backend := .none } (g.prompt a m)) := by
    have hsend : Follows (besideBond (fun i i' => i' = i) g entries fun _ => False)
        (fun _ => True) (fun _ answer' => answer' = { text := [] })
        (Step.sendPrompt g (g.prompt a m))
        (Step.sendPrompt { g with backend := .none } (g.prompt a m)) := by
      intro s s' hs _
      refine .ok rfl ⟨hs.tree, hs.entries, hs.known, ?_, hs.readings⟩
      exact congrArg (· ++ [g.prompt a m]) hs.prompts
    refine Follows.bind hsend ?_
    rintro answer _ rfl
    exact Follows.bind (hB.prints (List.nil_subset _)) fun _ _ _ => Follows.pure rfl
  refine Follows.bind hask ?_
  rintro reply _ rfl
  -- The run without a backend makes no remarks.
  refine Follows.bind (hB.prints (List.nil_subset _)) fun _ _ _ => ?_
  show Follows _ _ _ (produceBy g a m (.of reply a.className))
    (produceBy { g with backend := .none } a m .unanswered)
  have hstub : ∀ verdict, (¬ ∃ source, verdict = Verdict.accepted source) →
      Follows (besideBond (fun i i' => i' = i) g entries fun _ => False)
        (fun p => ∃ written, Stage.accepted ∉ (outcomeOf a p.verdict written).stages)
        (SameText Outcome.bare) (renderStub g a m >>= fun text => pure (Produced.mk text verdict))
        (renderStub { g with backend := .none } a m >>= fun text =>
          pure (Produced.mk text .unanswered)) := by
    intro verdict hnot
    refine Follows.bind (follows_renderStub hB a m) ?_
    rintro text _ rfl
    refine Follows.pure ⟨rfl, fun a written => ?_⟩
    cases verdict with
    | accepted source => exact absurd ⟨source, rfl⟩ hnot
    | unanswered => rfl
    | rejected => rfl
  cases Verdict.of reply a.className with
  | accepted source =>
    intro s s' _ hcounts
    obtain ⟨written, hnot⟩ : ∃ written, Stage.accepted ∉
      (outcomeOf a (.accepted source) written).stages := hcounts
    exact absurd (accepted_mem_stages.mpr ⟨source, rfl⟩) hnot
  | unanswered => exact hstub .unanswered nofun
  | rejected => exact hstub .rejected nofun

/-- The console shows what only the run without a backend prints: the line that tells so, and the
panel with another name for the backend wherever it shows the panel of the run. -/
structure ShowsWithout (g : Generator) (tables : List Text) (force : Bool) : Prop where
  disabled : g.console.Shows [disabledLine]
  panel : ∀ base artifacts, g.console.Shows [startPanel g base tables artifacts force] →
    g.console.Shows [startPanel { g with backend := .none } base tables artifacts force]

/-- A backend whose replies are useless is as good as none. If a run returns and none of its replies
holds a source text that declares the class of the artifact for which it was asked, then the run
without a backend returns as well (if what only it prints is shown), leaves the same files, and has
the same reports but for the stages on the way: the same artifacts at the same paths with the same
status, the same routes added, and as many files written and skipped. -/
theorem useless_backend_is_none {g : Generator} {tables : List Text} {force : Option Bool}
    {s s' : Session} {r : Report} (h : generate g tables force s = .ok r s')
    (huseless : Useless g s s' r)
    (hshows : ShowsWithout g tables (force.getD g.settings.forceOverwrite)) :
    ∃ r₀ s₀, generate { g with backend := .none } tables force s = .ok r₀ s₀ ∧
      s₀.tree = s'.tree ∧
      r₀.tables.map (TableReport.seen Outcome.bare) =
        r.tables.map (TableReport.seen Outcome.bare) ∧
      r₀.written = r.written ∧ r₀.skipped = r.skipped := by
  have hprobe : ∀ s₁ s₂ s₁', s₁'.requests = s₁.requests → probe g s₁ = .ok () s₂ →
      ∃ s₂', probe { g with backend := .none } s₁' = .ok () s₂' :=
    fun _ _ s₁' _ _ => ⟨_, say_of_shows hshows.disabled s₁'⟩
  have hpanel : ∀ base artifacts, Spares g.console (fun _ => False)
      [startPanel g base tables artifacts (force.getD g.settings.forceOverwrite)]
      [startPanel { g with backend := .none } base (tables.filter fun _ => true) artifacts
        (force.getD g.settings.forceOverwrite)] := by
    intro base artifacts hpanel m hm reason hrefused
    rw [Program.filter_all] at hm
    rw [hshows.panel base artifacts hpanel m hm] at hrefused
    cases hrefused
  have hbeside := generate_beside (fun _ => true) leeway_less (fun _ _ hsame => hsame)
    (Or.inl fun _ => rfl) hpanel hprobe (fun _ => produces_none) nofun h
    (huseless.not_accepted h)
  simp only [Program.filter_all] at hbeside
  -- The numbers in the report are counted from the statuses, which are not left out of the view.
  rcases hbeside with ⟨r₀, s₀, hrun, htree, _, hseen⟩ | ⟨_, _, _, hfalse⟩
  · refine ⟨r₀, s₀, hrun, htree, hseen, ?_, ?_⟩
    · rw [← written_bare r₀.tables, hseen, written_bare]
    · rw [← skipped_bare r₀.tables, hseen, skipped_bare]
  · exact hfalse.elim

/-- A backend that always writes another class is as good as none. -/
theorem useless_backend_is_none_users :
    let g := usersGenerator (.custom "fixed" fun _ _ => "class Another \x7b\x7d") .unreachable
    let s := usersSession noteStructure []
    ∃ r s' r₀ s₀, generate g ["users"] none s = .ok r s' ∧ Useless g s s' r ∧ r.written = 1 ∧
      generate { g with backend := .none } ["users"] none s = .ok r₀ s₀ ∧
      s₀.tree = s'.tree ∧ r₀.written = r.written := by
  intro g s
  have hruns : passes (generate g ["users"] none)
      (fun r s' => decide (Useless g s s' r ∧ r.written = 1)) s = true := by
    decide +kernel
  obtain ⟨r, s', hrun, htests⟩ := ok_of_passes hruns
  obtain ⟨huseless, hone⟩ := of_decide_eq_true htests
  obtain ⟨r₀, s₀, hrun₀, htree, _, hwritten, _⟩ :=
    useless_backend_is_none hrun huseless ⟨fun _ _ => rfl, fun _ _ _ _ _ => rfl⟩
  exact ⟨r, s', r₀, s₀, hrun, huseless, hone, hrun₀, htree, hwritten⟩

end Scaffold.Run
