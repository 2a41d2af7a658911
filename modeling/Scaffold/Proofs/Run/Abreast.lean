import Scaffold.Proofs.Run.Companions

/-!
# Runs abreast

Two runs with the same settings, catalog and console, but perhaps with different backends on
different networks, stay abreast of each other as long as their texts are the same: at every step
their files, entries, prompts and readings of the clock are the same, whatever has been printed and
asked of servers before (`Abreast`). From there on both print the same. Both runs fail with one
fault, and after the entries are known this is none about the structure file, unless an entry gives
no artifact (`Late`).

Each run is a companion of the other (`companions_abreast`), so that `follows_course` carries the
agreement of single productions to whole runs. Here nothing is taken for granted of either of them:
both may break off, and it is shown that they do so together. This is what tells runs abreast from a
run beside one that is known to return (`Scaffold.Proofs.Run.Beside`).

Which requests were made is left to a parameter of the bond, as the two runs may have asked
different servers.
-/

namespace Scaffold.Run

open Inference (Network Request)
open Program (Agree Alike Bond Follows bind_of_ok)

variable {α : Type}

/-! ## Sessions and faults -/

/-- The two sessions differ at most in what was printed and asked, and the entries are known. -/
structure Abreast (C : List Request → List Request → Prop) (g : Generator) (es : List Entry)
    (s s' : Session) : Prop where
  tree : s'.tree = s.tree
  entries : s'.entries = s.entries
  known : Known g s es
  prompts : s'.prompts = s.prompts
  readings : s'.readings = s.readings
  requests : C s.requests s'.requests

/-- Both faults are the same, and late. -/
def SameLate (g : Generator) (entries : List Entry) (fault fault' : Fault) : Prop :=
  fault' = fault ∧ Late g entries fault

/-- Two steps that keep sessions abreast, with results in a relation or with one late fault. -/
def InStep {α' : Type} (C : List Request → List Request → Prop) (g : Generator)
    (entries : List Entry) (Q : α → α' → Prop) (act : Step α) (act' : Step α') : Prop :=
  Agree (Abreast C g entries) (SameLate g entries) Q act act'

section

variable {C : List Request → List Request → Prop} {g : Generator} {entries : List Entry}
  {backend : Backend} {network : Network} {view : Outcome → Outcome}

/-- Every fault is shared by runs that are abreast. -/
def abreastBond (C : List Request → List Request → Prop) (g : Generator) (entries : List Entry) :
    Bond Fault Session where
  states := Abreast C g entries
  errors := SameLate g entries
  counts := fun _ => True
  excused := fun _ => False

/-- Two runs abreast print the same at the same times, and what breaks off one of them breaks off
the other. -/
theorem companions_abreast :
    Companions g g.clock entries (fun i i' => i' = i) (fun ms ms' => ms' = ms)
      (abreastBond C g entries) where
  tree := Abreast.tree
  known := fun hs => ⟨hs.known, hs.known.of_entries hs.entries⟩
  readings := Abreast.readings
  same := fun _ => rfl
  prints := by
    rintro _ ms rfl s s' hs _
    rcases say_cases g.console ms with ⟨_, hsay⟩ | ⟨_, _, _, _, _, _, hrefused, hsay⟩
    · rw [hsay, hsay]
      exact .ok rfl ⟨hs.tree, hs.entries, hs.known, hs.prompts, hs.readings, hs.requests⟩
    · rw [hsay, hsay]
      exact .error ⟨rfl, hrefused⟩
        ⟨hs.tree, hs.entries, hs.known, hs.prompts, hs.readings, hs.requests⟩
  changed := fun _ hs => ⟨rfl, hs.entries, hs.known, hs.prompts, hs.readings, hs.requests⟩
  ticked := fun hs => ⟨hs.tree, hs.entries, hs.known, hs.prompts, congrArg (· + 1) hs.readings,
    hs.requests⟩
  duration := by
    rintro i _ j _ rfl rfl
    unfold Step.duration
    split
    · exact Follows.pure fun _ => rfl
    · exact fun s s' hs _ => .error ⟨rfl, trivial⟩ hs
  errors := fun hlate _ => ⟨rfl, hlate⟩

/-! ## Other backends -/

/-- Where both backends have the same answers, the same is produced. -/
theorem inStep_produce
    (hC : ∀ {asked asked'} rest, C asked asked' → C (asked ++ rest) (asked' ++ rest))
    (h : ∀ earlier prompt, backend.ask network earlier prompt =
      g.backend.ask g.network earlier prompt) (a : Artifact) (m : Schema.Metadata) :
    InStep C g entries Eq (produce g a m) (produce { g with backend, network } a m) := by
  have hsend : ∀ prompt, InStep C g entries Eq (Step.sendPrompt g prompt)
      (Step.sendPrompt { g with backend, network } prompt) := by
    intro prompt s s' hs
    show Alike _ _ _ (.ok (g.backend.ask g.network s.prompts prompt) _)
      (.ok (backend.ask network s'.prompts prompt) _)
    rw [hs.prompts, h]
    exact .ok rfl ⟨hs.tree, hs.entries, hs.known, rfl, hs.readings, hC _ hs.requests⟩
  exact (follows_produce companions_abreast
    (fun prompt => Agree.follows (B := abreastBond C g entries) (hsend prompt) _) a m).agree
    (fun _ => trivial) (fun _ => trivial) nofun

/-! ## Whole runs -/

/-- Runs stay abreast over all their tables if they do in producing texts. -/
theorem inStep_course (hview : Outcome.bare.FactorsThrough view) (tables : List Text) (force : Bool)
    (h : ∀ a m, InStep C g entries (SameText view) (produce g a m)
      (produce { g with backend, network } a m)) :
    InStep C g entries
      (fun r r' => r.tables.map (TableReport.seen view) = r'.tables.map (TableReport.seen view))
      (course g tables force) (course { g with backend, network } tables force) := by
  have hproduces : Produces g { g with backend, network } (abreastBond C g entries)
      (fun _ => True) view :=
    fun a m => Agree.follows (B := abreastBond C g entries) (h a m) _
  have hcourse :=
    follows_course_all companions_abreast hview (fun _ _ _ => trivial) hproduces tables force
  exact (hcourse.mono (fun _ => id) Eq.symm).agree (fun _ _ _ _ _ => trivial) (fun _ => trivial)
    nofun

end

/-- A run with known entries breaks off with a late fault only: it is abreast of itself. -/
theorem course_late {g : Generator} {entries : List Entry} {tables : List Text} {force : Bool}
    {s s' : Session} {fault : Fault} (hknown : Known g s entries)
    (h : course g tables force s = .error fault s') : Late g entries fault := by
  have hproduce : ∀ a m, InStep (fun _ _ => True) g entries (SameText id) (produce g a m)
      (produce g a m) := by
    intro a m s s' hs
    refine (inStep_produce (fun _ _ => trivial) (fun _ _ => rfl) a m s s' hs).mono id id ?_
    rintro p _ rfl
    exact ⟨rfl, fun _ _ => rfl⟩
  have hself := inStep_course bare_of_id tables force hproduce s s
    ⟨rfl, rfl, hknown, rfl, rfl, trivial⟩
  rw [h] at hself
  cases hself with
  | error hlate _ => exact hlate.2

end Scaffold.Run
