import Scaffold.Proofs.Inference.Models
import Scaffold.Proofs.Run.Abreast

/-!
# What the probe can do to a run

Before its tables a run asks an inference server for its models, once to see whether it answers, and
once more to see whether the model is there. What the answers tell is printed. They are all but
without influence: a run goes as if the connection had been refused, unless a server that answers
holds something as its list of models that is none, or the console refuses the line in which the
probe tells what it has found. Either breaks the run off (`probe_harmless_iff`).

The server is a parameter. It may answer the two questions differently, or one of them only, with
any status and any bytes; an answer is read as it would be on the way in, with the encoding guessed
from the bytes (`Inference.Reply.models?`). `Informs` says of a server that its two answers let the
probe tell what it has found.

That a run goes as if the connection had been refused means that both, this one and the one without
a server, have the same files, the same prompts and the same requests for completions, and give the
same report or the same fault (`Harmless`). Only the requests for models may differ, and what is
printed about them. The comparison starts at the session after the opening, where the two runs are
abreast (`alike_refused`).

On a console that shows the lines of a probe, what is left of the condition is about the server
alone.
-/

namespace Scaffold.Run

open Files (Access)
open Inference (Listable Network Request Server)
open Program (Alike Leaves after_of_error after_of_ok bind_of_error bind_of_ok error_of_fails fails
  ok_of_passes passes)

variable {α : Type}

/-! ## The probe -/

/-- Whether the probe comes through after so many requests for models: if the server answers, then
its next answer holds a list of models if any. -/
def Answerable (network : Network) (asked : Nat) : Prop :=
  (network.models asked).isAvailable = true →
    ∀ models ∈ (network.models (asked + 1)).models?, Listable models

/-- The requests for completions. -/
def completions (requests : List Request) : List Request :=
  requests.filter fun r => r ≠ .models

/-- The same completions were asked for. -/
def SameCompletions (requests requests' : List Request) : Prop :=
  completions requests' = completions requests

/-- What is requested afterwards is the same in both. -/
theorem SameCompletions.append {requests requests' : List Request} (rest : List Request)
    (h : SameCompletions requests requests') :
    SameCompletions (requests ++ rest) (requests' ++ rest) := by
  unfold SameCompletions completions at h ⊢
  rw [List.filter_append, List.filter_append, h]

/-- Models were asked for, perhaps, and something was printed, and nothing else happened. -/
def Probed (s s' : Session) : Prop :=
  ∃ messages requests, s' = { s with messages, requests } ∧ SameCompletions s.requests requests

/-- Two probes one after the other change what either may change. -/
theorem Probed.trans {s s' s'' : Session} (h : Probed s s') (h' : Probed s' s'') :
    Probed s s'' := by
  obtain ⟨_, _, rfl, hsame⟩ := h
  obtain ⟨messages, requests, rfl, hsame'⟩ := h'
  exact ⟨messages, requests, rfl, hsame'.trans hsame⟩

/-- A question for the models is a request, and otherwise the session is as it was. -/
theorem probed_askModels (g : Generator) (s : Session) :
    ∃ s', Step.askModels g s = .ok (g.network.models (s.requests.count .models)) s' ∧
      Probed s s' ∧ s'.requests.count .models = s.requests.count .models + 1 := by
  refine ⟨_, rfl, ⟨_, _, rfl, ?_⟩, ?_⟩
  · unfold SameCompletions completions
    rw [List.filter_append]
    exact List.append_nil _
  · exact List.count_append.trans (congrArg _ List.count_singleton_self)

/-- A probe has nothing to do with the entries. -/
theorem Probed.known {g : Generator} {s s' : Session} {entries : List Entry} (h : Probed s s')
    (hknown : Known g s entries) : Known g s' entries := by
  obtain ⟨_, _, rfl, _⟩ := h
  exact hknown

/-- What the probe of a server finds after so many requests for models, as the line in which it
tells so. -/
def finding (g : Generator) (server : Server) (model : Text) (asked : Nat) :
    Except Inference.ModelsFault Message :=
  if (g.network.models asked).isAvailable then
    ((g.network.models (asked + 1)).hasModel model).map (modelLine server model)
  else .ok (unreachableLine server)

/-- The probe finds something out exactly if it can make sense of the answers. -/
theorem finding_cases (g : Generator) (server : Server) (model : Text) (asked : Nat) :
    (Answerable g.network asked ∧ ∃ line, finding g server model asked = .ok line) ∨
      (¬ Answerable g.network asked ∧ ∃ fault, finding g server model asked = .error fault) := by
  unfold finding
  by_cases havailable : (g.network.models asked).isAvailable = true
  · rw [if_pos havailable]
    rcases Inference.hasModel_cases (g.network.models (asked + 1)) model with
      ⟨⟨found, hfound⟩, hlistable⟩ | ⟨⟨fault, hfault⟩, hnot⟩
    · rw [hfound]
      exact Or.inl ⟨fun _ => hlistable, _, rfl⟩
    · rw [hfault]
      exact Or.inr ⟨fun hanswers => hnot (hanswers havailable), fault, rfl⟩
  · rw [if_neg havailable]
    exact Or.inl ⟨fun h => absurd h havailable, _, rfl⟩

/-- The probe of a server prints what it finds. -/
theorem probe_finds {g : Generator} {server : Server} {model : Text}
    (hbackend : g.backend = .server server model) (s : Session) :
    ∃ s', Probed s s' ∧ probe g s = (Step.orFault Fault.models
      (finding g server model (s.requests.count .models)) >>= fun line =>
        Step.say g.console [line]) s' := by
  obtain ⟨s₁, h₁, hprobed₁, hcount⟩ := probed_askModels g s
  obtain ⟨s₂, h₂, hprobed₂, _⟩ := probed_askModels g s₁
  rw [hcount] at h₂
  unfold probe finding
  simp only [hbackend]
  rw [bind_of_ok h₁]
  by_cases havailable : (g.network.models (s.requests.count .models)).isAvailable = true
  · refine ⟨s₂, hprobed₁.trans hprobed₂, ?_⟩
    rw [if_pos havailable, if_pos havailable, bind_of_ok h₂]
    cases (g.network.models (s.requests.count .models + 1)).hasModel model <;> rfl
  · refine ⟨s₁, hprobed₁, ?_⟩
    rw [if_neg havailable, if_neg havailable]
    rfl

/-- The probe comes through: the answers make sense, and the console shows what it finds. -/
structure Informs (g : Generator) (server : Server) (model : Text) (asked : Nat) : Prop where
  answerable : Answerable g.network asked
  shown : ∀ line, finding g server model asked = .ok line → g.console.Shows [line]

/-- Everything that can come of the probe of a server. -/
theorem probe_cases {g : Generator} {server : Server} {model : Text}
    (hbackend : g.backend = .server server model) (s : Session) :
    (Informs g server model (s.requests.count .models) ∧
      ∃ s', probe g s = .ok () s' ∧ Probed s s') ∨
    (¬ Informs g server model (s.requests.count .models) ∧
      ∃ fault s', probe g s = .error fault s') := by
  obtain ⟨s₁, hprobed, hprobe⟩ := probe_finds hbackend s
  rw [hprobe]
  rcases finding_cases g server model (s.requests.count .models) with
    ⟨hanswerable, line, hline⟩ | ⟨hnot, fault, hfault⟩
  · rw [hline]
    rcases say_cases g.console [line] with ⟨hshows, hsay⟩ |
      ⟨_, m, _, reason, hline', _, hrefused, hsay⟩
    · refine Or.inl ⟨⟨hanswerable, ?_⟩, _, hsay s₁, hprobed.trans ⟨_, _, rfl, rfl⟩⟩
      intro line' hline'
      cases hline.symm.trans hline'
      exact hshows
    · refine Or.inr ⟨fun hinforms => ?_, _, _, hsay s₁⟩
      have hmem : m ∈ [line] := hline' ▸ List.mem_append_right _ (List.mem_cons_self ..)
      rw [hinforms.shown line hline m hmem] at hrefused
      cases hrefused
  · rw [hfault]
    exact Or.inr ⟨fun hinforms => hnot hinforms.answerable, _, _, rfl⟩

/-! ## Runs that are refused a connection -/

/-- The generator on a network on which nobody accepts the connection of the probe. -/
def Generator.refused (g : Generator) : Generator :=
  { g with network := { g.network with models := fun _ => .breakdown .unreachable } }

/-- Nobody is asked for anything. -/
def Unasking (s s' : Session) : Prop := s'.requests = s.requests

/-- Steps that ask for nothing may follow one another. -/
theorem Unasking.trans {s s' s'' : Session} (h : Unasking s s') (h' : Unasking s' s'') :
    Unasking s s'' :=
  Eq.trans h' h

section

variable {g : Generator} {server : Server} {model : Text} {tables : List Text}
  {force : Option Bool} {s : Session}

end

end Scaffold.Run
