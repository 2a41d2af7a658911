import Scaffold.Proofs.Artifact.Write
import Scaffold.Proofs.Run.Session
import Scaffold.Proofs.Source.Extraction
import Scaffold.Proofs.Stub.Rendering
import Scaffold.Run.Table

/-!
# No unchecked text is written

Whatever the backend answers and whatever the stubs hold, the source text of an artifact declares
its class, starts with the opening tag and ends with one line feed (`Valid`). There is such a text
whenever the stub can be read, and a file that is reported as written holds exactly its bytes
(`produced_text_checked`).

A text is produced in one of two ways. The reply of the backend is judged by the candidate that is
found in it (`Verdict.accepted_iff`): it must declare the class that was asked for. If there is no
reply, or it is rejected, the text is rendered from the stub of the artifact, or from a skeleton
where there is no stub or the stub does not declare the class. Either way the text gets its header
last, so that validity has to be shown for declarations with a header only (`valid_withHeader`).

What is produced depends on little. Apart from the prompts that were asked before, it is told by
what is read of one stub (`produced`), and that by what stands at one path (`result_load?`). The
lemmas with `congr` in their names say so for two sessions that agree on these. They are stated of
results and faults alike, as a later step may ask which of them it was.

The backend and the network are parameters: a reply is any text at all, and may depend on earlier
prompts. The console may refuse to show a message about the reply, and then the run breaks off
although there would have been a text; that is the second case of `produce_returns`. A stub that is
there and is no text in UTF-8 is the one thing among the files that prevents a text.
-/

namespace Scaffold.Run

open Files (Tree)
open Program (bind_error_iff bind_of_error bind_of_ok bind_ok_iff error_of_bind_pure ok_of_passes
  passes pure_ok_iff result result_bind_congr result_bind_of_ok result_bind_pure result_of_error result_of_ok)
open Stub (IsClassName)

/-- What the source file of a class must be. -/
structure Valid (className text : Text) : Prop where
  declares : Source.declares text className = true
  opened : Text.startsWith text Source.openingTag = true
  trimmed : text = Text.trim text ++ "\n"

/-- Giving a text its header makes it valid if it declares the class. -/
theorem valid_withHeader {className candidate : Text} (h : IsClassName className)
    (hdeclares : Source.declares candidate className = true) :
    Valid className (Source.withHeader candidate) := by
  refine ⟨Source.declares_withHeader hdeclares h.last, Source.startsWith_withHeader candidate, ?_⟩
  exact Source.withHeader_eq_trim (Source.isBlank_of_declares hdeclares)

/-! ## Verdicts -/

/-- A reply of blanks, or none, is no answer; what it is wrapped in does not matter then. -/
theorem Verdict.unanswered_iff {reply className : Text} :
    Verdict.of reply className = .unanswered ↔ Text.isBlank reply = true := by
  unfold Verdict.of
  by_cases hblank : Text.isBlank reply = true
  · simp only [hblank, if_true]
  · by_cases hdeclares : Source.declares (Source.ofReply reply) className = true
    · simp [hblank, hdeclares]
    · simp [hblank, hdeclares]

/-- A reply is accepted exactly if its candidate declares the class. -/
theorem Verdict.accepted_iff {reply className source : Text} :
    Verdict.of reply className = .accepted source ↔
      Source.declares (Source.ofReply reply) className = true ∧
        source = Source.withHeader (Source.ofReply reply) := by
  unfold Verdict.of
  constructor
  · intro h
    split at h
    next => cases h
    next =>
      dsimp only at h
      split at h
      next hdeclares =>
        cases h
        exact ⟨hdeclares, rfl⟩
      next => cases h
  · intro hparts
    obtain ⟨hdeclares, rfl⟩ := hparts
    simp only [Source.isBlank_of_declares_ofReply hdeclares, hdeclares, if_true]
    rfl

/-- So whether a reply is accepted is told by its candidate alone. -/
theorem Verdict.exists_accepted_iff {reply className : Text} :
    (∃ source, Verdict.of reply className = .accepted source) ↔
      Source.declares (Source.ofReply reply) className = true := by
  constructor
  · rintro ⟨source, hsource⟩
    exact (Verdict.accepted_iff.mp hsource).1
  · intro hdeclares
    exact ⟨_, Verdict.accepted_iff.mpr ⟨hdeclares, rfl⟩⟩

/-- A reply with something in it is rejected if its candidate does not declare the class. -/
theorem Verdict.rejected_iff {reply className : Text} :
    Verdict.of reply className = .rejected ↔
      Text.isBlank reply = false ∧
        Source.declares (Source.ofReply reply) className = false := by
  unfold Verdict.of
  by_cases hblank : Text.isBlank reply = true
  · simp [hblank]
  · by_cases hdeclares : Source.declares (Source.ofReply reply) className = true
    · simp [hblank, hdeclares]
    · simp [hblank, hdeclares]

/-! ## Stubs -/

/-- Looking for a stub changes no file. -/
theorem reads_load? (directory : Files.Path) (a : Artifact) :
    Files.Reads (Stub.load? directory a) := by
  apply (Files.reads_isFile _).bind
  intro found
  split
  · exact (Files.reads_readText _).bind fun text => Files.Reads.pure _
  · exact Files.Reads.pure _

/-- What is read of a stub where a file stands, if one stands there. -/
def stubOf (found : Except Files.Failure (Option Files.Node)) :
    Except Files.Failure (Option Text) :=
  match found with
  | .ok (some (.file bytes)) => (Files.textOf bytes).map some
  | .ok _ => .ok none
  | .error failure => .error failure

/-- Looking for a stub is asking what stands at its path, and reading that if it is a file. -/
theorem result_load? (directory : Files.Path) (a : Artifact) (t : Tree) :
    result (Stub.load? directory a) t =
      stubOf (result (Files.node? (Stub.path directory a)) t) := by
  cases hnode : Files.node? (Stub.path directory a) t with
  | error failure t₁ =>
    rw [result_of_error hnode]
    exact result_of_error (bind_of_error (bind_of_error hnode _) _)
  | ok node t₁ =>
    obtain rfl := (Files.reads_node? _).tree_eq hnode
    rw [result_of_ok hnode]
    have hrest : ∀ found, Files.isFile (Stub.path directory a) t₁ = .ok found t₁ →
        result (Stub.load? directory a) t₁ = result (if found then do
          return some (← Files.readText (Stub.path directory a)) else return none) t₁ :=
      fun _ hfound => result_bind_of_ok hfound _
    rcases node with _ | ⟨_ | bytes⟩
    · exact hrest false (bind_of_ok hnode _)
    · exact hrest false (bind_of_ok hnode _)
    · rw [hrest true (bind_of_ok hnode _), if_pos rfl, result_bind_pure,
        Files.result_readText hnode]
      rfl

/-- What is read of the stub depends on the files by what stands at its path. -/
theorem result_load?_of_node? {directory : Files.Path} {a : Artifact} {t t' : Tree}
    (h : result (Files.node? (Stub.path directory a)) t' =
      result (Files.node? (Stub.path directory a)) t) :
    result (Stub.load? directory a) t' = result (Stub.load? directory a) t := by
  rw [result_load?, result_load?, h]

/-- The source text from what is read of the stub. -/
def rendered (g : Generator) (a : Artifact) (m : Schema.Metadata) (stub : Option Text) : Text :=
  Source.withHeader (Stub.choose g.namespaces a m stub).1

/-- Rendering puts together what was read; beyond the reading it cannot fail. -/
theorem result_render (g : Generator) (a : Artifact) (m : Schema.Metadata) (t : Tree) :
    result (Stub.render g.stubs g.namespaces a m) t =
      (result (Stub.load? g.stubs a) t).map (Stub.choose g.namespaces a m) :=
  result_bind_pure _ _ _

/-- So it changes no file, either. -/
theorem reads_render (g : Generator) (a : Artifact) (m : Schema.Metadata) :
    Files.Reads (Stub.render g.stubs g.namespaces a m) :=
  (reads_load? g.stubs a).bind fun _ => Files.Reads.pure _

/-- What is rendered depends on the files by what is read of the stub only. -/
theorem renderStub_ok {g : Generator} {a : Artifact} {m : Schema.Metadata} {s s' : Session}
    {text : Text} (h : renderStub g a m s = .ok text s') :
    Idle s s' ∧ ∃ stub, result (Stub.load? g.stubs a) s.tree = .ok stub ∧
      text = rendered g a m stub := by
  unfold renderStub at h
  obtain ⟨⟨content, messages⟩, s₁, hfiles, h⟩ := bind_ok_iff.mp h
  obtain ⟨_, s₂, hsay, h⟩ := bind_ok_iff.mp h
  obtain ⟨rfl, rfl⟩ := pure_ok_iff.mp h
  refine ⟨(idle_of_ok (idle_files (reads_render g a m)) hfiles).trans
    (idle_of_ok (idle_say g.console _) hsay), ?_⟩
  obtain ⟨t, hrender, rfl⟩ := files_ok_iff.mp hfiles
  have hresult := result_render g a m s.tree
  rw [result_of_ok hrender] at hresult
  cases hload : result (Stub.load? g.stubs a) s.tree with
  | error failure =>
    rw [hload] at hresult
    cases hresult
  | ok stub =>
    rw [hload] at hresult
    refine ⟨stub, rfl, ?_⟩
    unfold rendered
    rw [← Except.ok.inj hresult]

/-- Rendering fails if the stub cannot be read, or at the console. -/
theorem renderStub_error {g : Generator} {a : Artifact} {m : Schema.Metadata} {s s' : Session}
    {fault : Fault} (h : renderStub g a m s = .error fault s') :
    Refused g.console fault ∨
      ∃ failure, fault = .files failure ∧ result (Stub.load? g.stubs a) s.tree = .error failure := by
  unfold renderStub at h
  rcases bind_error_iff.mp h with hfiles | ⟨⟨content, messages⟩, s₁, _, h⟩
  · refine Or.inr ?_
    have hresult := result_files (Stub.render g.stubs g.namespaces a m) s
    rw [result_of_error hfiles, result_render] at hresult
    cases hload : result (Stub.load? g.stubs a) s.tree with
    | error failure =>
      rw [hload] at hresult
      cases hresult
      exact ⟨failure, rfl, rfl⟩
    | ok stub =>
      rw [hload] at hresult
      cases hresult
  · exact Or.inl (refused_of_say (error_of_bind_pure h))

/-- From two sessions that agree on the stub the same comes of rendering it, a result or a fault. -/
theorem result_renderStub_congr (g : Generator) (a : Artifact) (m : Schema.Metadata)
    {s s' : Session} (h : result (Stub.load? g.stubs a) s'.tree =
      result (Stub.load? g.stubs a) s.tree) :
    result (renderStub g a m) s' = result (renderStub g a m) s := by
  have hfiles : result (Step.files (Stub.render g.stubs g.namespaces a m)) s' =
      result (Step.files (Stub.render g.stubs g.namespaces a m)) s := by
    rw [result_files, result_files, result_render, result_render, h]
  exact result_bind_congr hfiles fun _ _ =>
    result_bind_congr (result_say ..) fun _ _ => rfl

/-! ## What is produced -/

/-- The reply of the backend to the prompt for an artifact, after earlier prompts. -/
def Generator.reply (g : Generator) (earlier : List Text) (a : Artifact) (m : Schema.Metadata) :
    Text :=
  (g.backend.ask g.network earlier (g.prompt a m)).text

/-- The verdict on that reply. -/
def Generator.verdict (g : Generator) (earlier : List Text) (a : Artifact) (m : Schema.Metadata) :
    Verdict :=
  .of (g.reply earlier a m) a.className

/-- What is produced by a verdict and from what is read of the stub. -/
def produced (g : Generator) (a : Artifact) (m : Schema.Metadata) (verdict : Verdict)
    (stub : Except Files.Failure (Option Text)) : Except Files.Failure Produced :=
  match verdict with
  | .accepted source => .ok ⟨source, verdict⟩
  | _ => stub.map fun stub => ⟨rendered g a m stub, verdict⟩

/-- One prompt was asked. The files and the entries are the same. -/
structure Asked (prompt : Text) (s s' : Session) : Prop extends Still s s' where
  prompts : s'.prompts = s.prompts ++ [prompt]

/-- Idle steps before the prompt do not count. -/
theorem Asked.after_idle {prompt : Text} {s s' s'' : Session} (h : Asked prompt s' s'')
    (h' : Idle s s') : Asked prompt s s'' :=
  ⟨h'.toStill.trans h.toStill, by rw [h.prompts, h'.prompts]⟩

/-- Asking gives the text of the backend's answer, which may depend on all earlier prompts. -/
theorem askBackend_ok {g : Generator} {prompt reply : Text} {s s' : Session}
    (h : Step.askBackend g prompt s = .ok reply s') :
    reply = (g.backend.ask g.network s.prompts prompt).text ∧ Asked prompt s s' := by
  unfold Step.askBackend at h
  obtain ⟨answer, s₁, hsend, h⟩ := bind_ok_iff.mp h
  obtain ⟨_, s₂, hsay, h⟩ := bind_ok_iff.mp h
  obtain ⟨rfl, rfl⟩ := pure_ok_iff.mp h
  cases hsend
  have hidle := idle_of_ok (idle_say g.console _) hsay
  exact ⟨rfl, ⟨hidle.tree, hidle.entries⟩, hidle.prompts⟩

/-- Asking the backend fails only at the console. -/
theorem askBackend_error {g : Generator} {prompt : Text} {s s' : Session} {fault : Fault}
    (h : Step.askBackend g prompt s = .error fault s') : Refused g.console fault := by
  unfold Step.askBackend at h
  rcases bind_error_iff.mp h with hsend | ⟨answer, s₁, _, h⟩
  · cases hsend
  · exact refused_of_say (error_of_bind_pure h)

/-- What comes of asking the backend is told by the prompts before. -/
theorem result_askBackend_congr (g : Generator) (prompt : Text) {s s' : Session}
    (h : s'.prompts = s.prompts) :
    result (Step.askBackend g prompt) s' = result (Step.askBackend g prompt) s := by
  have hsend : result (Step.sendPrompt g prompt) s' = result (Step.sendPrompt g prompt) s :=
    congrArg (fun earlier => Except.ok (g.backend.ask g.network earlier prompt)) h
  exact result_bind_congr hsend fun _ _ => result_bind_congr (result_say ..) fun _ _ => rfl

/-- Idle steps after the question add no other. -/
theorem Asked.idle {prompt : Text} {s s' s'' : Session} (h : Asked prompt s s')
    (h' : Idle s' s'') : Asked prompt s s'' :=
  ⟨h.toStill.trans h'.toStill, h'.prompts.trans h.prompts⟩

/-- What is left to do when there is a verdict. -/
def produceBy (g : Generator) (a : Artifact) (m : Schema.Metadata) (verdict : Verdict) :
    Step Produced := do
  match verdict with
  | .accepted source => return ⟨source, verdict⟩
  | _ => return ⟨← renderStub g a m, verdict⟩

/-- By a verdict the text is the accepted source, or else what is rendered from the stub. -/
theorem produceBy_ok {g : Generator} {a : Artifact} {m : Schema.Metadata} {verdict : Verdict}
    {s s' : Session} {p : Produced} (h : produceBy g a m verdict s = .ok p s') :
    Idle s s' ∧ produced g a m verdict (result (Stub.load? g.stubs a) s.tree) = .ok p := by
  have hstub : ∀ {verdict}, (renderStub g a m >>= fun text => pure (Produced.mk text verdict)) s =
      .ok p s' → Idle s s' ∧ (result (Stub.load? g.stubs a) s.tree).map
        (fun stub => Produced.mk (rendered g a m stub) verdict) = .ok p := by
    intro verdict h
    obtain ⟨text, s₁, hrender, h⟩ := bind_ok_iff.mp h
    obtain ⟨rfl, rfl⟩ := pure_ok_iff.mp h
    obtain ⟨hidle, stub, hload, rfl⟩ := renderStub_ok hrender
    -- Only an accepted reply does without the stub.
    exact ⟨hidle, by rw [hload]; rfl⟩
  cases verdict with
  | accepted source =>
    obtain ⟨rfl, rfl⟩ := pure_ok_iff.mp h
    exact ⟨Idle.refl s, rfl⟩
  | unanswered => exact hstub h
  | rejected => exact hstub h

/-- The stub is read only if it is needed, so an accepted source never fails for it. -/
theorem produceBy_error {g : Generator} {a : Artifact} {m : Schema.Metadata} {verdict : Verdict}
    {s s' : Session} {fault : Fault} (h : produceBy g a m verdict s = .error fault s') :
    Refused g.console fault ∨
      ∃ failure, fault = .files failure ∧ result (Stub.load? g.stubs a) s.tree = .error failure := by
  have hstub : ∀ {verdict}, (renderStub g a m >>= fun text => pure (Produced.mk text verdict)) s =
      .error fault s' → Refused g.console fault ∨ ∃ failure, fault = .files failure ∧
        result (Stub.load? g.stubs a) s.tree = .error failure := by
    intro verdict h
    exact renderStub_error (error_of_bind_pure h)
  cases verdict with
  | accepted source => cases h
  | unanswered => exact hstub h
  | rejected => exact hstub h

/-- From two sessions that agree on the stub the same is produced by a verdict. -/
theorem result_produceBy_congr (g : Generator) (a : Artifact) (m : Schema.Metadata)
    (verdict : Verdict) {s s' : Session} (h : result (Stub.load? g.stubs a) s'.tree =
      result (Stub.load? g.stubs a) s.tree) :
    result (produceBy g a m verdict) s' = result (produceBy g a m verdict) s := by
  have hstub : ∀ {verdict}, result (renderStub g a m >>= fun text =>
      pure (Produced.mk text verdict)) s' = result (renderStub g a m >>= fun text =>
        pure (Produced.mk text verdict)) s :=
    result_bind_congr (result_renderStub_congr g a m h) fun _ _ => rfl
  cases verdict with
  | accepted source => rfl
  | unanswered => exact hstub
  | rejected => exact hstub

/-- Producing a text is asking for it, judging the reply, and doing what the verdict calls for; in
between it prints. -/
theorem produce_eq (g : Generator) (a : Artifact) (m : Schema.Metadata) :
    produce g a m = (do
      Step.say g.console (diagnostics g ("prompt: " ++ a.className) (g.prompt a m))
      let reply ← Step.askBackend g (g.prompt a m)
      Step.say g.console (remarks g a reply (.of reply a.className))
      produceBy g a m (.of reply a.className)) := rfl

/-- A text is produced by the verdict on the reply and from what is read of the stub; one prompt is
asked for it. -/
theorem produce_runs {g : Generator} {a : Artifact} {m : Schema.Metadata} {s s' : Session}
    {p : Produced} (h : produce g a m s = .ok p s') :
    Asked (g.prompt a m) s s' ∧ produced g a m (g.verdict s.prompts a m)
      (result (Stub.load? g.stubs a) s.tree) = .ok p := by
  rw [produce_eq] at h
  obtain ⟨_, s₁, hbefore, h⟩ := bind_ok_iff.mp h
  obtain ⟨reply, s₂, hask, h⟩ := bind_ok_iff.mp h
  obtain ⟨_, s₃, hremarks, h⟩ := bind_ok_iff.mp h
  have hidle₁ := idle_of_ok (idle_say g.console _) hbefore
  have hidle₃ := idle_of_ok (idle_say g.console _) hremarks
  obtain ⟨rfl, hasked⟩ := askBackend_ok hask
  obtain ⟨hidle, hproduced⟩ := produceBy_ok h
  rw [hidle₁.prompts, hidle₃.tree, hasked.tree, hidle₁.tree] at hproduced
  exact ⟨((hasked.after_idle hidle₁).idle hidle₃).idle hidle, hproduced⟩

/-- No text is produced if the stub is needed and cannot be read, or if the console refuses a
message. -/
theorem produce_error {g : Generator} {a : Artifact} {m : Schema.Metadata} {s s' : Session}
    {fault : Fault} (h : produce g a m s = .error fault s') :
    Refused g.console fault ∨
      ∃ failure, fault = .files failure ∧ result (Stub.load? g.stubs a) s.tree = .error failure := by
  rw [produce_eq] at h
  rcases bind_error_iff.mp h with hbefore | ⟨_, s₁, hbefore, h⟩
  · exact Or.inl (refused_of_say hbefore)
  rcases bind_error_iff.mp h with hask | ⟨reply, s₂, hask, h⟩
  · exact Or.inl (askBackend_error hask)
  rcases bind_error_iff.mp h with hremarks | ⟨_, s₃, hremarks, h⟩
  · exact Or.inl (refused_of_say hremarks)
  have hidle₁ := idle_of_ok (idle_say g.console _) hbefore
  have hidle₃ := idle_of_ok (idle_say g.console _) hremarks
  rw [← hidle₁.tree, ← (askBackend_ok hask).2.tree, ← hidle₃.tree]
  exact produceBy_error h

/-- What comes of producing a text is told by the prompts before and by what is read of the
stub. -/
theorem result_produce_congr (g : Generator) (a : Artifact) (m : Schema.Metadata) {s s' : Session}
    (hprompts : s'.prompts = s.prompts) (hstub : result (Stub.load? g.stubs a) s'.tree =
      result (Stub.load? g.stubs a) s.tree) :
    result (produce g a m) s' = result (produce g a m) s := by
  rw [produce_eq]
  refine result_bind_congr (result_say ..) fun {_ s₁ s₁'} h₁ h₁' => ?_
  have hidle₁ := idle_of_ok (idle_say g.console _) h₁
  have hidle₁' := idle_of_ok (idle_say g.console _) h₁'
  -- The two runs stay abreast: step by step they agree on the prompts, and on the tree as far as
  -- the stub goes.
  have hsame : s₁'.prompts = s₁.prompts := by rw [hidle₁'.prompts, hprompts, hidle₁.prompts]
  refine result_bind_congr (result_askBackend_congr g _ hsame) fun {_ s₂ s₂'} h₂ h₂' => ?_
  refine result_bind_congr (result_say ..) fun {_ s₃ s₃'} h₃ h₃' => ?_
  refine result_produceBy_congr g a m _ ?_
  rw [(idle_of_ok (idle_say g.console _) h₃).tree, (idle_of_ok (idle_say g.console _) h₃').tree,
    (askBackend_ok h₂).2.tree, (askBackend_ok h₂').2.tree, hidle₁.tree, hidle₁'.tree, hstub]

/-- What is produced is a text with its header, and the text declares the class. -/
theorem produced_ok {g : Generator} {a : Artifact} {m : Schema.Metadata} {earlier : List Text}
    {stub : Except Files.Failure (Option Text)} {p : Produced}
    (h : produced g a m (g.verdict earlier a m) stub = .ok p) :
    p.verdict = g.verdict earlier a m ∧ ∃ content, p.text = Source.withHeader content ∧
      (IsClassName a.className → Source.declares content a.className = true) := by
  have hstub : ∀ verdict, stub.map (fun stub => Produced.mk (rendered g a m stub) verdict) = .ok p →
      p.verdict = verdict ∧ ∃ content, p.text = Source.withHeader content ∧
        (IsClassName a.className → Source.declares content a.className = true) := by
    intro verdict h
    cases stub with
    | error failure => cases h
    | ok stub =>
      cases h
      exact ⟨rfl, _, rfl, fun ha => Stub.declares_choose ha rfl⟩
  unfold produced at h
  split at h
  next source hverdict =>
    cases h
    obtain ⟨hdeclares, rfl⟩ := Verdict.accepted_iff.mp hverdict
    exact ⟨rfl, _, rfl, fun _ => hdeclares⟩
  next => exact hstub _ h

/-- A text that is produced has its header and declares the class, if that is a name that a class
can have. -/
theorem produce_ok {g : Generator} {a : Artifact} {m : Schema.Metadata} {s s' : Session}
    {p : Produced} (h : produce g a m s = .ok p s') :
    Asked (g.prompt a m) s s' ∧ p.verdict = g.verdict s.prompts a m ∧
      ∃ content, p.text = Source.withHeader content ∧
        (IsClassName a.className → Source.declares content a.className = true) := by
  obtain ⟨hasked, hproduced⟩ := produce_runs h
  exact ⟨hasked, produced_ok hproduced⟩

/-- A text that is produced for a class with a proper name is valid. -/
theorem produce_valid {g : Generator} {a : Artifact} {m : Schema.Metadata} {s s' : Session}
    {p : Produced} (ha : IsClassName a.className) (h : produce g a m s = .ok p s') :
    Valid a.className p.text := by
  obtain ⟨_, _, content, htext, hdeclares⟩ := produce_ok h
  rw [htext]
  exact valid_withHeader ha (hdeclares ha)

/-- A text is produced, whatever the backend answers, if the stub can be read or is missing, unless
the console refuses a message. -/
theorem produce_returns {g : Generator} {a : Artifact} (m : Schema.Metadata) {s : Session}
    {stub : Option Text} {t : Tree} (h : Stub.load? g.stubs a s.tree = .ok stub t) :
    (∃ p s', produce g a m s = .ok p s') ∨
      ∃ fault s', produce g a m s = .error fault s' ∧ Refused g.console fault := by
  cases hproduce : produce g a m s with
  | ok p s' => exact Or.inl ⟨p, s', rfl⟩
  | error fault s' =>
    refine Or.inr ⟨fault, s', rfl, ?_⟩
    rcases produce_error hproduce with hrefused | ⟨failure, _, hload⟩
    · exact hrefused
    · rw [result_of_ok h] at hload
      cases hload

/-! ## Outcomes -/

/-- The status says whether a file was written at all, whatever the verdict. -/
theorem statusOf_skipped_iff {verdict : Verdict} {written : Bool} :
    statusOf verdict written = .skipped ↔ written = false := by
  cases written <;> cases verdict <;> simp [statusOf]

/-- For a written file it says where the text is from: from the backend exactly if the reply was
accepted. -/
theorem statusOf_fromBackend_iff {verdict : Verdict} {written : Bool} :
    statusOf verdict written = .fromBackend ↔
      (∃ source, verdict = .accepted source) ∧ written = true := by
  cases written <;> cases verdict <;> simp [statusOf]

/-- In every other case the stub is what was written. -/
theorem statusOf_fromStub_iff {verdict : Verdict} {written : Bool} :
    statusOf verdict written = .fromStub ↔
      (¬ ∃ source, verdict = .accepted source) ∧ written = true := by
  cases written <;> cases verdict <;> simp [statusOf]

/-- Generating an artifact is producing its text and writing it. -/
theorem generateArtifact_ok {g : Generator} {m : Schema.Metadata} {force : Bool} {a : Artifact}
    {s s' : Session} {o : Outcome} (h : generateArtifact g m force a s = .ok o s') :
    ∃ p s₁ written t, produce g a m s = .ok p s₁ ∧
      Artifact.write a.target p.text force s₁.tree = .ok written t ∧ s'.tree = t ∧
      Idle { s₁ with tree := t } s' ∧
      o = { artifact := a
            status := statusOf p.verdict written
            stages := [.requested, .prompted] ++ p.verdict.stages ++
              [.writing, if written then .written else .skipped] } := by
  unfold generateArtifact at h
  obtain ⟨p, s₁, hproduce, h⟩ := bind_ok_iff.mp h
  obtain ⟨written, s₂, hwrite, h⟩ := bind_ok_iff.mp h
  obtain ⟨_, s₃, hsay, h⟩ := bind_ok_iff.mp h
  obtain ⟨rfl, rfl⟩ := pure_ok_iff.mp h
  obtain ⟨t, hact, rfl⟩ := files_ok_iff.mp hwrite
  have hidle := idle_of_ok (idle_say g.console _) hsay
  exact ⟨p, s₁, written, t, hproduce, hact, hidle.tree, hidle, rfl⟩

/-- Source text is checked before it gets anywhere: it is produced whenever the stub can be read
or is missing, whatever the backend answers, unless the console refuses a message; what is produced
is valid; and a file that was written holds the bytes of what was produced. -/
theorem produced_text_checked (g : Generator) (a : Artifact) (m : Schema.Metadata)
    (ha : IsClassName a.className) :
    (∀ s stub t, Stub.load? g.stubs a s.tree = .ok stub t →
      (∃ p s', produce g a m s = .ok p s') ∨
        ∃ fault s', produce g a m s = .error fault s' ∧ Refused g.console fault) ∧
    (∀ s p s', produce g a m s = .ok p s' → Valid a.className p.text) ∧
    (∀ force s o s', generateArtifact g m force a s = .ok o s' →
      o.stages.getLast? = some .written →
      ∃ p s'' bytes, produce g a m s = .ok p s'' ∧ Utf8.encode p.text = .ok bytes ∧
        Files.readBytes a.target s'.tree = .ok bytes s'.tree) := by
  refine ⟨?_, ?_, ?_⟩
  · intro s stub t hstub
    exact produce_returns m hstub
  · intro s p s' hproduce
    exact produce_valid ha hproduce
  · intro force s o s' hgenerate hlast
    obtain ⟨p, s₁, written, t, hproduce, hwrite, htree, _, rfl⟩ := generateArtifact_ok hgenerate
    -- The last stage tells whether the file was written or left alone.
    have hwritten : written = true := by
      cases written with
      | true => rfl
      | false =>
        rw [List.getLast?_append] at hlast
        cases hlast
    subst hwritten
    obtain ⟨bytes, hbytes, hread⟩ := Artifact.write_readBytes hwrite
    exact ⟨p, s₁, bytes, hproduce, hbytes, htree ▸ hread⟩

/-- A reply that declares the class asked for is checked and written. -/
theorem produced_text_checked_of_reply :
    let answer : Text := "Sure:\nclass UserNote \x7b\x7d"
    let g : Generator :=
      { settings := {}, backend := .custom "fixed" fun _ _ => answer, catalog := {},
        network := .unreachable, clock := fun _ => 0, bundledStubs := ⟨.here, []⟩ }
    let a : Artifact :=
      { kind := .custom, name := "note", className := "UserNote",
        target := Files.Path.ofText "app/Notes/UserNote.php" }
    let s : Session := { tree := { workingDirectory := [], entries := [] } }
    ∃ o s' p s'' bytes, generateArtifact g default false a s = .ok o s' ∧
      produce g a default s = .ok p s'' ∧ Valid a.className p.text ∧
      Utf8.encode p.text = .ok bytes ∧
      Files.readBytes a.target s'.tree = .ok bytes s'.tree := by
  intro answer g a s
  obtain ⟨_, hvalid, hwritten⟩ := produced_text_checked g a default (by decide +kernel)
  have hruns : passes (generateArtifact g default false a)
      (fun o _ => o.stages.getLast? = some .written) s = true := by
    decide +kernel
  obtain ⟨o, s', hrun, htest⟩ := ok_of_passes hruns
  have hlast := of_decide_eq_true htest
  obtain ⟨p, s'', bytes, hproduce, hbytes, hread⟩ := hwritten false s o s' hrun hlast
  exact ⟨o, s', p, s'', bytes, hrun, hproduce, hvalid s p s'' hproduce, hbytes, hread⟩

end Scaffold.Run
