import Scaffold.Proofs.Run.Source
import Scaffold.Proofs.Source.Fences
import Scaffold.Proofs.Text.Encoding

/-!
# Fences that are left over

A reply that was cut off, or whose first fence is missing, has a fence that belongs to no block. If
an opening tag stands in such a reply, the candidate ends before the fence; otherwise the whole
reply is the candidate, with its fence (`Dangling`). In every other case the candidate holds no
fence. What is made of the candidate adds no fence and takes none away, so the text of an artifact
that comes from the backend has a fence exactly if the reply is dangling
(`unfenced_unless_dangling`).

The theorem is about every reply. It tells of the candidate first, as a text, and then of the file
that is written: of the bytes at the target after the artifact was generated, for artifacts whose
status says that the reply was accepted. A reply with a left-over fence may well be accepted, as all
that is asked of a candidate is that it declares its class.

Where the candidate comes from in a reply with blocks is told in `Scaffold.Proofs.Source.Blocks`;
here only fences matter, not which block is chosen.
-/

namespace Scaffold.Source

/-- The reply has a fence, but neither two fences beside each other nor an opening tag. -/
structure Dangling (reply : Text) : Prop where
  fenced : ¬ Unfenced reply
  alone : ∀ before between after : Text,
    reply ≠ before ++ (fence ++ (between ++ (fence ++ after)))
  untagged : ∀ {source : Text}, source <:+ reply → ¬ OpensSource source

/-! ## Replies with two fences -/

/-- Between two fences something is found. -/
theorem firstBlock_anyInline_ne_none (before between after : Text) :
    firstBlock anyInline (before ++ (fence ++ (between ++ (fence ++ after)))) ≠ none := by
  rw [anyInline_eq]
  induction before with
  | nil =>
    rw [List.nil_append, firstBlock_fence, Option.bind_some]
    intro hnone
    have hbody := body?_eq_none_iff.mp (Option.or_eq_none_iff.mp hnone).1
    exact hbody ⟨between, after, by simp⟩
  | cons c before ih => exact fun hnone => ih (Option.or_eq_none_iff.mp hnone).2

/-- A block is found exactly if two fences stand beside each other. -/
theorem fenced?_eq_none_iff {reply : Text} :
    fenced? reply = none ↔ ∀ before between after : Text,
      reply ≠ before ++ (fence ++ (between ++ (fence ++ after))) := by
  constructor
  · rintro hnone before between after rfl
    simp only [fenced?, Option.or_eq_none_iff] at hnone
    exact firstBlock_anyInline_ne_none before between after hnone.2.2.2
  · intro hall
    refine Option.eq_none_iff_forall_ne_some.mpr fun body hfound => ?_
    obtain ⟨before, between, inside, hreply, hbody⟩ := fenced?_found hfound
    obtain ⟨⟨inner, after⟩, hcut, _⟩ := Option.map_eq_some_iff.mp hbody
    refine hall before (between ++ inner) after ?_
    rw [hreply, Text.eq_of_cutAt hcut]
    simp

/-! ## Candidates -/

/-- A fence begins and ends with what is not trimmed. -/
theorem firm_fence : Text.Firm fence := by
  have hblank : (CodePoint.char '`').isBlank = false := by decide
  exact ⟨⟨_, _, rfl, hblank⟩, ⟨Text.ofString "``", _, rfl, hblank⟩⟩

/-- So trimming neither takes a fence away nor makes one. -/
theorem unfenced_trim_iff {t : Text} : Unfenced (Text.trim t) ↔ Unfenced t :=
  not_congr (Text.infix_trim_iff firm_fence)

/-- What is before the first fence has none. -/
theorem unfenced_beforeFence (t : Text) : Unfenced (beforeFence t) := by
  unfold beforeFence
  cases hbody : body? t with
  | none => exact body?_eq_none_iff.mp hbody
  | some body => exact unfenced_of_body? hbody

/-- A candidate is trimmed already. -/
theorem trim_ofReply (reply : Text) : Text.trim (ofReply reply) = ofReply reply := by
  unfold ofReply
  split
  · exact Text.trim_trim _
  · split <;> exact Text.trim_trim _

/-- A candidate holds no fence, unless the whole reply had to be taken. -/
theorem unfenced_ofReply_iff {reply : Text} : Unfenced (ofReply reply) ↔ ¬ Dangling reply := by
  unfold ofReply
  cases hfenced : fenced? reply with
  | some body =>
    obtain ⟨_, _, inside, _, hbody⟩ := fenced?_found hfenced
    refine iff_of_true (unfenced_trim_iff.mpr (unfenced_of_body? hbody)) fun hdangling => ?_
    rw [fenced?_eq_none_iff.mpr hdangling.alone] at hfenced
    cases hfenced
  | none =>
    cases hsource : fromOpeningTag? reply with
    | some source =>
      refine iff_of_true (unfenced_trim_iff.mpr (unfenced_beforeFence source)) fun hdangling => ?_
      rw [fromOpeningTag?_eq_none_iff.mpr hdangling.untagged] at hsource
      cases hsource
    | none =>
      show Unfenced (Text.trim reply) ↔ _
      rw [unfenced_trim_iff]
      refine ⟨fun hfree hdangling => hdangling.fenced hfree, fun hnot => ?_⟩
      by_contra hfree
      exact hnot ⟨hfree, fenced?_eq_none_iff.mp hfenced, fromOpeningTag?_eq_none_iff.mp hsource⟩

/-- Neither the opening tag nor the line feed at the end makes a fence. -/
theorem unfenced_withHeader_iff {source : Text} :
    Unfenced (withHeader source) ↔ Unfenced source := by
  have hend : Unfenced [] := by decide
  have htag : Unfenced (Text.ofString "<?php\n") := by decide
  rw [withHeader_eq, unfenced_lines_iff, ← unfenced_trim_iff (t := source), lead]
  split
  · simp [hend]
  · show Unfenced (Text.ofString "<?php\n" ++ .char '\n' :: Text.trim source) ∧ _ ↔ _
    rw [unfenced_lines_iff]
    simp [hend, htag]

end Scaffold.Source

namespace Scaffold.Run

open Program (ok_of_passes passes)
open Source (Dangling Unfenced ofReply)

/-- A text that comes from the backend is the candidate with its header. -/
theorem produce_accepted {g : Generator} {a : Artifact} {m : Schema.Metadata} {s s' : Session}
    {p : Produced} {source : Text} (h : produce g a m s = .ok p s')
    (haccepted : p.verdict = .accepted source) :
    p.text = Source.withHeader (ofReply (g.reply s.prompts a m)) := by
  have hverdict := (produce_ok h).2.1
  rw [haccepted] at hverdict
  obtain ⟨_, hproduced⟩ := produce_runs h
  rw [← hverdict] at hproduced
  cases hproduced
  exact (Verdict.accepted_iff.mp hverdict.symm).2

/-- A candidate is a part of the reply without blanks around it, and has no fence unless the reply
is dangling. The same is true of every file that is written with text from the backend. -/
theorem unfenced_unless_dangling (reply : Text) :
    ofReply reply <:+: reply ∧ Text.trim (ofReply reply) = ofReply reply ∧
    (Unfenced (ofReply reply) ↔ ¬ Dangling reply) ∧
    ∀ {g : Generator} {m : Schema.Metadata} {force : Bool} {a : Artifact} {s s' : Session}
      {o : Outcome}, generateArtifact g m force a s = .ok o s' → o.status = .fromBackend →
        g.reply s.prompts a m = reply →
        ∃ bytes text, Files.readBytes a.target s'.tree = .ok bytes s'.tree ∧
          Utf8.decode bytes = .ok text ∧ (Unfenced text ↔ ¬ Dangling reply) := by
  refine ⟨Source.infix_ofReply reply, Source.trim_ofReply reply, Source.unfenced_ofReply_iff, ?_⟩
  rintro g m force a s s' o h hstatus rfl
  obtain ⟨p, s₁, written, t, hproduce, hwrite, htree, _, rfl⟩ := generateArtifact_ok h
  obtain ⟨⟨source, haccepted⟩, rfl⟩ := statusOf_fromBackend_iff.mp hstatus
  obtain ⟨bytes, hbytes, hread⟩ := Artifact.write_readBytes hwrite
  refine ⟨bytes, p.text, htree ▸ hread, Utf8.decode_encode hbytes, ?_⟩
  rw [produce_accepted hproduce haccepted, Source.unfenced_withHeader_iff]
  exact Source.unfenced_ofReply_iff

/-- A run in which the backend always gives the same answer. -/
def answering (answer : Text) : Generator :=
  { settings := {}, backend := .custom "fixed" fun _ _ => answer, catalog := {},
    network := .unreachable, clock := fun _ => 0, bundledStubs := ⟨.here, []⟩ }

/-- An artifact of a custom kind. -/
def note : Artifact :=
  { kind := .custom, name := "note", className := "UserNote",
    target := Files.Path.ofText "app/Notes/UserNote.php" }

/-- A fence after the source text is left out because an opening tag precedes it. -/
theorem unfenced_unless_dangling_tagged :
    let g := answering "<?php\nclass UserNote \x7b\x7d\n```\nHope this helps"
    let s : Session := { tree := { workingDirectory := [], entries := [] } }
    ∃ o s' bytes text, generateArtifact g default false note s = .ok o s' ∧
      o.status = .fromBackend ∧ Files.readBytes note.target s'.tree = .ok bytes s'.tree ∧
      Utf8.decode bytes = .ok text ∧ Unfenced text := by
  intro g s
  have hruns : passes (generateArtifact g default false note)
      (fun o _ => o.status = .fromBackend) s = true := by
    decide +kernel
  obtain ⟨o, s', hrun, htest⟩ := ok_of_passes hruns
  have hstatus := of_decide_eq_true htest
  obtain ⟨bytes, text, hread, hdecode, hfence⟩ := (unfenced_unless_dangling _).2.2.2 hrun hstatus rfl
  have hopens : Source.OpensSource (g.reply [] note default) := by
    refine ⟨_, rfl, fun c hc => ?_⟩
    cases hc
    decide
  exact ⟨o, s', bytes, text, hrun, hstatus, hread, hdecode,
    hfence.mpr fun hdangling => hdangling.untagged (List.suffix_refl _) hopens⟩

/-- Without an opening tag the fence stays in the candidate and in the text that is accepted. -/
theorem fence_left_in_text :
    let reply : Text := "class UserNote \x7b\x7d\n```\nHope this helps"
    let s : Session := { tree := { workingDirectory := [], entries := [] } }
    ¬ Unfenced (ofReply reply) ∧
      ∃ p s', produce (answering reply) note default s = .ok p s' ∧
        p.verdict = .accepted p.text ∧ ¬ Unfenced p.text := by
  intro reply s
  have hruns : passes (produce (answering reply) note default)
      (fun p _ => p.verdict = .accepted p.text ∧ ¬ Unfenced p.text) s = true := by
    decide +kernel
  obtain ⟨p, s', hrun, htest⟩ := ok_of_passes hruns
  exact ⟨by decide, p, s', hrun, of_decide_eq_true htest⟩

end Scaffold.Run
