import Scaffold.Proofs.Files.Outcome
import Scaffold.Run.Source

/-!
# What steps of a run leave

Most of what a run does is printing, asking and reading. None of that touches the files or the
entries of the structure file (`Still`), and all of it but asking the backend leaves the prompts as
they are, too (`Idle`). Both are relations between the session before a step and the one after it,
and both hold whether the step gives a result or breaks off: a fault undoes nothing, so what it
leaves matters as much.

The steps of a run are of four kinds, and each has its lemma here.

* Reading the clock and asking for models cannot fail (`Quiet`). What they give is up to the clock
  and the server.
* A computation on data fails by its own error (`orFault_ok_iff`) and touches nothing.
* Work on the files is told by the tree alone (`files_ok_iff`, `result_files`), and is idle if it
  only reads (`idle_files`).
* Printing fails exactly if the console refuses one of the messages, whatever else there is in the
  session (`say_cases`). Those before it are shown by then.

What asking the backend comes to is told in `Scaffold.Proofs.Run.Source`. What was printed, how
often the clock was read and which requests were made is left open here: no theorem about files or
reports depends on it, and those about messages speak of the messages themselves.
-/

namespace Scaffold.Run

open Files (Access Path Tree)
open Program (after Leaves after_of_error after_of_ok bind_of_error bind_of_ok pure_ok_iff result
  result_of_error result_of_ok)

variable {α β ε : Type}

/-! ## Steps that leave the files alone -/

/-- The files and the entries of the structure file are the same. -/
structure Still (s s' : Session) : Prop where
  tree : s'.tree = s.tree
  entries : s'.entries = s.entries

theorem Still.refl (s : Session) : Still s s := ⟨rfl, rfl⟩

/-- Steps that leave the files and the entries alone may follow one another. -/
theorem Still.trans {s s' s'' : Session} (h : Still s s') (h' : Still s' s'') : Still s s'' :=
  ⟨h'.tree.trans h.tree, h'.entries.trans h.entries⟩

/-- The prompts are the same as well. -/
structure Idle (s s' : Session) : Prop extends Still s s' where
  prompts : s'.prompts = s.prompts

theorem Idle.refl (s : Session) : Idle s s := ⟨Still.refl s, rfl⟩

/-- Steps that leave the prompts as they are may follow one another. -/
theorem Idle.trans {s s' s'' : Session} (h : Idle s s') (h' : Idle s' s'') : Idle s s'' :=
  ⟨h.toStill.trans h'.toStill, h'.prompts.trans h.prompts⟩

/-- A step that leaves everything idle does so where it gives a result. -/
theorem idle_of_ok {act : Step α} (h : Leaves Idle act) {s s' : Session} {a : α}
    (ha : act s = .ok a s') : Idle s s' := by
  have hs := h s
  rw [after_of_ok ha] at hs
  exact hs

/-- What is idle at every step is idle as a whole, whether it gives a result or breaks off on the
way. -/
theorem idle_bind {act : Step α} {next : α → Step β} (h : Leaves Idle act)
    (hnext : ∀ a, Leaves Idle (next a)) : Leaves Idle (act >>= next) :=
  Leaves.bind h Idle.trans hnext

theorem idle_pure (a : α) : Leaves Idle (pure a : Step α) := Idle.refl

theorem idle_throw (fault : Fault) : Leaves Idle (throw fault : Step α) := Idle.refl

/-- A computation that is no step has no effect: it gives its value, or the fault that its error
stands for. -/
theorem orFault_ok_iff {fault : ε → Fault} {value : Except ε α} {s s' : Session} {a : α} :
    Step.orFault fault value s = .ok a s' ↔ value = .ok a ∧ s' = s := by
  cases value with
  | ok b =>
    show (pure b : Step α) s = .ok a s' ↔ _
    rw [pure_ok_iff, Except.ok.injEq, eq_comm (a := s')]
  | error e =>
    constructor
    · intro h
      cases h
    · intro hparts
      cases hparts.1

/-- A step that gives a value or a fault is idle even where it breaks off. -/
theorem idle_orFault (fault : ε → Fault) (value : Except ε α) :
    Leaves Idle (Step.orFault fault value) := by
  cases value with
  | ok a => exact idle_pure a
  | error e => exact idle_throw (fault e)

/-- Work on the files gives the result of the work, on the tree of the session. -/
theorem files_ok_iff {act : Access α} {s s' : Session} {a : α} :
    Step.files act s = .ok a s' ↔ ∃ t, act s.tree = .ok a t ∧ s' = { s with tree := t } := by
  unfold Step.files
  cases hact : act s.tree with
  | ok b t =>
    constructor
    · intro h
      cases h
      exact ⟨t, rfl, rfl⟩
    · intro hparts
      obtain ⟨_, ⟨⟩, rfl⟩ := hparts
      rfl
  | error failure t =>
    constructor
    · intro h
      cases h
    · intro hparts
      obtain ⟨_, h, _⟩ := hparts
      cases h

/-- Work that only reads the files leaves everything idle, also where the reading fails. -/
theorem idle_files {act : Access α} (h : Files.Reads act) : Leaves Idle (Step.files act) := by
  intro s
  have htree := h s.tree
  unfold after Step.files
  unfold after at htree
  cases hact : act s.tree with
  | ok a t =>
    rw [hact] at htree
    exact ⟨⟨htree, rfl⟩, rfl⟩
  | error failure t =>
    rw [hact] at htree
    exact ⟨⟨htree, rfl⟩, rfl⟩

/-- The result of work on the files is that of the work. -/
theorem result_files (act : Access α) (s : Session) :
    result (Step.files act) s = (result act s.tree).mapError Fault.files := by
  unfold result Step.files
  cases act s.tree <;> rfl

/-! ## Places -/

/-- The address that a path leads to, if it leads anywhere. -/
def place? (t : Tree) (p : Path) : Option Files.Address :=
  match Files.address p t with
  | .ok x _ => some x
  | .error _ _ => none

/-- The two ways of saying where a path leads agree where it leads somewhere. -/
theorem place?_of_address {t : Tree} {p : Path} {x : Files.Address}
    (h : Files.address p t = .ok x t) : place? t p = some x := by
  unfold place?
  rw [h]

/-! ## Steps that cannot fail -/

/-- A step that gives a result from wherever it starts, and leaves everything idle. -/
def Quiet (act : Step α) : Prop := ∀ s, ∃ a s', act s = .ok a s' ∧ Idle s s'

/-- What cannot fail has only one end to leave idle. -/
theorem Quiet.idle {act : Step α} (h : Quiet act) : Leaves Idle act := by
  intro s
  obtain ⟨a, s', ha, hidle⟩ := h s
  rw [after_of_ok ha]
  exact hidle

/-- A reading of the clock is counted, and nothing else comes of it. -/
theorem quiet_readClock (g : Generator) : Quiet (Step.readClock g) :=
  fun _ => ⟨_, _, rfl, ⟨rfl, rfl⟩, rfl⟩

/-- A question for the models is noted, and the server may answer anything: what to make of the
answer is for a later step. -/
theorem quiet_askModels (g : Generator) : Quiet (Step.askModels g) :=
  fun _ => ⟨_, _, rfl, ⟨rfl, rfl⟩, rfl⟩

/-! ## Printing -/

/-- The fault is that the console refuses a message. -/
def Refused (c : Console) (fault : Fault) : Prop :=
  ∃ m reason, fault = .console m reason ∧ c.refusal? m = some reason

section

variable {c : Console} {m : Message} {ms : List Message} {s s' : Session}

/-- A message that the console takes is among those that were printed. -/
theorem print_of_shown (h : c.refusal? m = none) (s : Session) :
    Step.print c m s = .ok () { s with messages := s.messages ++ [m] } := by
  unfold Step.print
  rw [h]

/-- A message that it refuses is not, and the run breaks off. -/
theorem print_of_refused {reason : Text} (h : c.refusal? m = some reason) (s : Session) :
    Step.print c m s = .error (.console m reason) s := by
  unfold Step.print
  rw [h]

/-- Everything that can come of printing: all messages are shown; or one is refused, and those
before it are shown. -/
theorem say_cases (c : Console) (ms : List Message) :
    (c.Shows ms ∧ ∀ s, Step.say c ms s = .ok () { s with messages := s.messages ++ ms }) ∨
    ∃ shown m rest reason, ms = shown ++ m :: rest ∧ c.Shows shown ∧
      c.refusal? m = some reason ∧ ∀ s, Step.say c ms s =
        .error (.console m reason) { s with messages := s.messages ++ shown } := by
  induction ms with
  | nil => exact Or.inl ⟨nofun, fun s => by rw [List.append_nil]; rfl⟩
  | cons m ms ih =>
    cases hm : c.refusal? m with
    | some reason =>
      -- The first message is refused: nothing of the list is shown.
      refine Or.inr ⟨[], m, ms, reason, rfl, nofun, hm, fun s => ?_⟩
      rw [List.append_nil]
      exact bind_of_error (print_of_refused hm s) _
    | none =>
      have hfirst : ∀ s, Step.say c (m :: ms) s =
          Step.say c ms { s with messages := s.messages ++ [m] } :=
        fun s => bind_of_ok (print_of_shown hm s) _
      rcases ih with ⟨hshows, hsay⟩ | ⟨shown, m', rest, reason, rfl, hshows, hrefused, hsay⟩
      · refine Or.inl ⟨List.forall_mem_cons.mpr ⟨hm, hshows⟩, fun s => ?_⟩
        rw [hfirst, hsay, List.append_assoc, List.singleton_append]
      · refine Or.inr ⟨m :: shown, m', rest, reason, rfl, List.forall_mem_cons.mpr ⟨hm, hshows⟩,
          hrefused, fun s => ?_⟩
        rw [hfirst, hsay, List.append_assoc, List.singleton_append]

/-- Messages are printed if the console shows all of them. -/
theorem say_ok_iff : Step.say c ms s = .ok () s' ↔
    c.Shows ms ∧ s' = { s with messages := s.messages ++ ms } := by
  rcases say_cases c ms with ⟨hshows, hsay⟩ | ⟨shown, m, rest, reason, rfl, _, hrefused, hsay⟩
  · rw [hsay, EStateM.Result.ok.injEq, eq_comm (a := s')]
    exact ⟨fun h => ⟨hshows, h.2⟩, fun h => ⟨rfl, h.2⟩⟩
  · rw [hsay]
    constructor
    · intro h
      cases h
    · rintro ⟨hshows, _⟩
      rw [hshows m (List.mem_append_right _ (List.mem_cons_self ..))] at hrefused
      cases hrefused

/-- On a console that shows all of them, messages are printed from any session. -/
theorem say_of_shows (h : c.Shows ms) (s : Session) :
    Step.say c ms s = .ok () { s with messages := s.messages ++ ms } :=
  say_ok_iff.mpr ⟨h, rfl⟩

/-- Printing fails for one of the messages, which the console refuses. -/
theorem say_error {fault : Fault} (h : Step.say c ms s = .error fault s') :
    ∃ m ∈ ms, ∃ reason, fault = .console m reason ∧ c.refusal? m = some reason := by
  rcases say_cases c ms with ⟨_, hsay⟩ | ⟨shown, m, rest, reason, rfl, _, hrefused, hsay⟩
  · rw [hsay] at h
    cases h
  · rw [hsay] at h
    cases h
    exact ⟨m, List.mem_append_right _ (List.mem_cons_self ..), reason, rfl, hrefused⟩

/-- There is no other fault in printing than that the console refuses. -/
theorem refused_of_say {fault : Fault} (h : Step.say c ms s = .error fault s') :
    Refused c fault := by
  obtain ⟨m, _, reason, rfl, hrefused⟩ := say_error h
  exact ⟨m, reason, rfl, hrefused⟩

/-- Whether messages are printed does not depend on the session. -/
theorem result_say (c : Console) (ms : List Message) (s s' : Session) :
    result (Step.say c ms) s' = result (Step.say c ms) s := by
  rcases say_cases c ms with ⟨_, hsay⟩ | ⟨_, _, _, _, _, _, _, hsay⟩
  · rw [result_of_ok (hsay s), result_of_ok (hsay s')]
  · rw [result_of_error (hsay s), result_of_error (hsay s')]

/-- Printing is idle, whether all messages are shown or one is refused. -/
theorem idle_say (c : Console) (ms : List Message) : Leaves Idle (Step.say c ms) := by
  intro s
  rcases say_cases c ms with ⟨_, hsay⟩ | ⟨_, _, _, _, _, _, _, hsay⟩
  · rw [after_of_ok (hsay s)]
    exact ⟨⟨rfl, rfl⟩, rfl⟩
  · rw [after_of_error (hsay s)]
    exact ⟨⟨rfl, rfl⟩, rfl⟩

end

/-- Wording a duration is idle, also where it fails for readings that have no difference. -/
theorem idle_duration (seconds : Float) : Leaves Idle (Step.duration seconds) := by
  unfold Step.duration
  split
  · exact idle_pure _
  · exact idle_throw _

end Scaffold.Run
