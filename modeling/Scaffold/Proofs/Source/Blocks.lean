import Scaffold.Proofs.Source.Fences

/-!
# Replies with blocks

A reply of a language model is chatter with blocks between (`Holds`): a block is a fence, a line of
information, a body and a fence, each on lines of its own. From such a reply the candidate is taken
by rank, not by place (`Chosen`): the body of the first block that is tagged, else of the first
block, and without any block what follows the first opening tag, or everything.

That the search agrees (`ofReply_chosen`) rests on one lemma about an opening: if it asks for
something that neither stands behind the fences of a block nor at their end, the search goes on
behind the block (`firstBlock_pass`).
-/

namespace Scaffold.Source

/-! ## Blocks -/

/-- A block of a reply. -/
structure Block where
  /-- What follows the first fence on its line. -/
  info : Text
  body : Text

namespace Block

/-- The block as it is written. -/
def text (b : Block) : Text :=
  fence ++ (b.info ++ .char '\n' :: (b.body ++ .char '\n' :: fence))

/-- The block can be told from what it holds. -/
structure Plain (b : Block) : Prop where
  line : .char '\n' ∉ b.info
  ticks : .char '`' ∉ b.info
  body : Unfenced b.body

/-- The block is said to hold source text: after spaces and tabs its information begins with the
tag, in any case, as a word of its own. -/
def Tagged (b : Block) : Prop :=
  ∃ blanks tag after, b.info = blanks ++ (tag ++ after) ∧ Blanks blanks ∧
    Spells ['p', 'h', 'p'] tag ∧ EndsWord after

/-- A block is tagged if its information begins with the tag. -/
theorem tagged_iff {b : Block} : b.Tagged ↔ (afterTag? b.info).isSome = true := by
  rw [Option.isSome_iff_exists]
  constructor
  · rintro ⟨blanks, tag, after, h⟩
    exact ⟨after, afterTag?_eq_some_iff.mpr ⟨blanks, tag, h⟩⟩
  · rintro ⟨after, h⟩
    obtain ⟨blanks, tag, h⟩ := afterTag?_eq_some_iff.mp h
    exact ⟨blanks, tag, after, h⟩

instance (b : Block) : Decidable b.Tagged := decidable_of_iff _ tagged_iff.symm

end Block

/-- The text is at its end, or begins with a line feed. -/
def AtLineEnd (t : Text) : Prop := t = [] ∨ ∃ rest, t = .char '\n' :: rest

/-- The reply is chatter with these blocks in it, in this order. What precedes a block is sealed;
what follows it is nothing, or goes on in a new line. -/
inductive Holds : Text → List Block → Prop where
  | chatter {t : Text} : Unfenced t → Holds t []
  | block {chatter rest : Text} {b : Block} {blocks : List Block} :
    Sealed chatter → b.Plain → AtLineEnd rest → Holds rest blocks →
    Holds (chatter ++ (b.text ++ rest)) (b :: blocks)

/-- The part of a reply with these blocks that is taken as the candidate. -/
inductive Chosen (reply : Text) : List Block → Text → Prop where
  | tagged {before after : List Block} {b : Block} :
    (∀ b' ∈ before, ¬ b'.Tagged) → b.Tagged → Chosen reply (before ++ b :: after) b.body
  | first {after : List Block} {b : Block} :
    (∀ b' ∈ b :: after, ¬ b'.Tagged) → Chosen reply (b :: after) b.body
  | source {source : Text} : FirstSource reply source → Chosen reply [] source
  | whole : (∀ {source : Text}, source <:+ reply → ¬ OpensSource source) → Chosen reply [] reply

/-- Something is chosen in every reply. -/
theorem exists_chosen (reply : Text) (blocks : List Block) : ∃ part, Chosen reply blocks part := by
  cases hfound : blocks.find? (·.Tagged) with
  | some b =>
    obtain ⟨htagged, before, after, rfl, hbefore⟩ := List.find?_eq_some_iff_append.mp hfound
    exact ⟨b.body, .tagged (by simpa using hbefore) (by simpa using htagged)⟩
  | none =>
    have hnone : ∀ b ∈ blocks, ¬ b.Tagged := by simpa using hfound
    cases blocks with
    | cons b after => exact ⟨b.body, .first hnone⟩
    | nil =>
      cases hsource : fromOpeningTag? reply with
      | some source => exact ⟨source, .source (firstSource_of_fromOpeningTag? hsource)⟩
      | none => exact ⟨reply, .whole (fromOpeningTag?_eq_none_iff.mp hsource)⟩

/-! ## Lines of information -/

section

variable {b : Block}

/-- A tagged block opens as such, whatever follows its line. -/
theorem afterTagLine_tagged (hplain : b.Plain) (h : b.Tagged) (rest : Text) :
    afterTagLine (b.info ++ .char '\n' :: rest) = some rest := by
  obtain ⟨blanks, tag, after, hinfo, hblanks, hspells, hend⟩ := h
  have htag : afterTag? (b.info ++ .char '\n' :: rest) = some (after ++ .char '\n' :: rest) := by
    refine afterTag?_eq_some_iff.mpr ⟨blanks, tag, ?_, hblanks, hspells, ?_⟩
    · rw [hinfo, List.append_assoc, List.append_assoc]
    · intro c hc
      cases after with
      | nil =>
        cases hc
        decide
      | cons d after => exact hend c hc
  have hafter : after ⊆ b.info := by
    rw [hinfo, ← List.append_assoc]
    exact List.subset_append_right _ _
  rw [afterTagLine, htag]
  exact afterLine?_of_line (fun h => hplain.line (hafter h)) (fun h => hplain.ticks (hafter h)) rest

/-- A block without a tag does not, as no tag goes on in the next line. -/
theorem afterTag?_untagged (h : ¬ b.Tagged) (rest : Text) :
    afterTag? (b.info ++ .char '\n' :: rest) = none := by
  refine Option.eq_none_iff_forall_ne_some.mpr fun after hsome => h ?_
  obtain ⟨blanks, tag, hline, hblanks, hspells, hend⟩ := afterTag?_eq_some_iff.mp hsome
  have hbefore : CodePoint.char '\n' ∉ blanks ++ tag := by
    rw [List.mem_append]
    rintro (hmem | hmem)
    · rcases hblanks _ hmem with heq | heq <;> cases heq
    · obtain ⟨letter, hletter, heq⟩ := hspells.mem hmem
      simp only [List.mem_cons, List.not_mem_nil, or_false] at hletter
      rcases hletter with rfl | rfl | rfl <;> exact absurd heq (by decide)
  have hprefix : blanks ++ tag <+: b.info ++ .char '\n' :: rest := ⟨after, by rw [hline]; simp⟩
  obtain ⟨line, hinfo⟩ := Text.prefix_before_barrier hbefore hprefix
  refine ⟨blanks, tag, line, by rw [← hinfo, List.append_assoc], hblanks, hspells, ?_⟩
  -- What follows the tag in the line is how the rest of the text begins.
  have hafter : after = line ++ .char '\n' :: rest := by
    rw [← hinfo, List.append_assoc, List.append_assoc] at hline
    exact (List.append_cancel_left (List.append_cancel_left hline)).symm
  intro c hc
  refine hend c ?_
  rw [hafter, List.head?_append, hc]
  rfl

/-! ## The search behind a block -/

/-- An opening that asks for something that neither stands behind the first fence of a block nor
behind its last one finds nothing in the block. -/
theorem firstBlock_pass {next : Opening} (hplain : b.Plain) {rest : Text} (hrest : AtLineEnd rest)
    (hopen : next (b.info ++ .char '\n' :: (b.body ++ .char '\n' :: (fence ++ rest))) = none)
    (hclose : next rest = none) :
    firstBlock (afterFence next) (b.text ++ rest) = firstBlock (afterFence next) rest := by
  -- Behind the first backtick comes text in which no fence starts, up to the last fence.
  have hinside : Sealed ((.char '`' :: .char '`' :: b.info) ++ .char '\n' ::
      (b.body ++ [.char '\n'])) := by
    have hopening : Unfenced (.char '`' :: .char '`' :: b.info) := by
      intro hfence
      have hcount := hfence.sublist.count_le (.char '`')
      simp [List.count_eq_zero_of_not_mem hplain.ticks, show fence.count (.char '`') = 3 from rfl]
        at hcount
    rw [List.append_cons, ← List.append_assoc]
    refine sealed_line ?_
    rw [List.append_assoc]
    exact unfenced_lines_iff.mpr ⟨hopening, hplain.body⟩
  have htext : b.text ++ rest =
      fence ++ (b.info ++ .char '\n' :: (b.body ++ .char '\n' :: (fence ++ rest))) := by
    simp [Block.text]
  have hsplit : .char '`' :: .char '`' ::
      (b.info ++ .char '\n' :: (b.body ++ .char '\n' :: (fence ++ rest))) =
      ((.char '`' :: .char '`' :: b.info) ++ .char '\n' :: (b.body ++ [.char '\n'])) ++
        (fence ++ rest) := by
    simp
  rw [htext, firstBlock_fence, hopen, hsplit, firstBlock_sealed next hinside, firstBlock_fence,
    hclose]
  show firstBlock (afterFence next) (.char '`' :: .char '`' :: rest) = _
  rcases hrest with rfl | ⟨rest, rfl⟩
  · rw [firstBlock_unfenced next (by decide)]
    rfl
  · have hticks : Unfenced (Text.ofString "``") := by decide
    have hline : Sealed (Text.ofString "``\n") := sealed_line hticks
    have hbreak : Sealed (Text.ofString "\n") := sealed_line sealed_nil.unfenced
    exact (firstBlock_sealed next hline rest).trans (firstBlock_sealed next hbreak rest).symm

/-- An opening that a tag is needed for does not find a block without one. -/
theorem firstBlock_untagged {next : Opening} (hnext : ∀ t, afterTag? t = none → next t = none)
    (hplain : b.Plain) (h : ¬ b.Tagged) {rest : Text} (hrest : AtLineEnd rest) :
    firstBlock (afterFence next) (b.text ++ rest) = firstBlock (afterFence next) rest := by
  refine firstBlock_pass hplain hrest (hnext _ (afterTag?_untagged h _)) (hnext _ ?_)
  rcases hrest with rfl | ⟨rest, rfl⟩ <;> rfl

/-- An opening that fits the line of a block finds its body. -/
theorem firstBlock_text {next : Opening} (hplain : b.Plain) {rest : Text}
    (h : ∀ t, next (b.info ++ .char '\n' :: t) = some t) :
    firstBlock (afterFence next) (b.text ++ rest) = some (b.body ++ [.char '\n']) := by
  have htext : b.text ++ rest =
      fence ++ (b.info ++ .char '\n' :: ((b.body ++ [.char '\n']) ++ (fence ++ rest))) := by
    simp [Block.text]
  rw [htext, firstBlock_fence, h]
  show ((body? _).or _) = _
  rw [body?_sealed (sealed_line hplain.body) rest, Option.some_or]

end

/-! ## The search in a reply -/

/-- Without tags no opening that needs one finds anything. -/
theorem Holds.firstBlock_none {reply : Text} {blocks : List Block} (h : Holds reply blocks)
    {next : Opening} (hnext : ∀ t, afterTag? t = none → next t = none)
    (hnone : ∀ b ∈ blocks, ¬ b.Tagged) : firstBlock (afterFence next) reply = none := by
  induction h with
  | chatter hfree => exact firstBlock_unfenced next hfree
  | @block chatter rest b blocks hsealed hplain hrest _ ih =>
    have huntagged := hnone b (List.mem_cons_self ..)
    rw [firstBlock_sealed next hsealed, firstBlock_untagged hnext hplain huntagged hrest]
    exact ih fun b' hb' => hnone b' (List.mem_cons_of_mem b hb')

/-- Without a tag there is no line after one. -/
theorem afterTagLine_of_no_tag {t : Text} (h : afterTag? t = none) : afterTagLine t = none := by
  rw [afterTagLine, h]
  rfl

/-- The first tagged block is found, however many blocks precede it. -/
theorem Holds.firstBlock_tagged {before after : List Block} {b : Block}
    (hbefore : ∀ b' ∈ before, ¬ b'.Tagged) (htagged : b.Tagged) :
    ∀ {reply : Text}, Holds reply (before ++ b :: after) →
      firstBlock taggedLine reply = some (b.body ++ [.char '\n']) := by
  rw [taggedLine_eq]
  induction before with
  | nil =>
    intro reply h
    cases h with
    | block hsealed hplain _ _ =>
      rw [firstBlock_sealed _ hsealed]
      exact firstBlock_text hplain (afterTagLine_tagged hplain htagged)
  | cons b' before ih =>
    intro reply h
    cases h with
    | block hsealed hplain hrest hlater =>
      have huntagged := hbefore b' (List.mem_cons_self ..)
      rw [firstBlock_sealed _ hsealed,
        firstBlock_untagged (fun t => afterTagLine_of_no_tag) hplain huntagged hrest]
      exact ih (fun b'' hb'' => hbefore b'' (List.mem_cons_of_mem b' hb'')) hlater

/-- The first block is found by its line alone. -/
theorem Holds.firstBlock_any {reply : Text} {b : Block} {after : List Block}
    (h : Holds reply (b :: after)) :
    firstBlock anyLine reply = some (b.body ++ [.char '\n']) := by
  cases h with
  | block hsealed hplain _ _ =>
    rw [anyLine_eq, firstBlock_sealed _ hsealed]
    exact firstBlock_text hplain (afterLine?_of_line hplain.line hplain.ticks)

/-- The body of the first tagged block is found, whatever other blocks come before. -/
theorem Holds.fenced_tagged {reply : Text} {before after : List Block} {b : Block}
    (h : Holds reply (before ++ b :: after)) (hbefore : ∀ b' ∈ before, ¬ b'.Tagged)
    (htagged : b.Tagged) : fenced? reply = some (b.body ++ [.char '\n']) := by
  rw [fenced?, h.firstBlock_tagged hbefore htagged, Option.some_or]

/-- Without a tagged block, that of the first block is. -/
theorem Holds.fenced_first {reply : Text} {after : List Block} {b : Block}
    (h : Holds reply (b :: after)) (hnone : ∀ b' ∈ b :: after, ¬ b'.Tagged) :
    fenced? reply = some (b.body ++ [.char '\n']) := by
  rw [fenced?, taggedLine_eq, taggedInline_eq,
    h.firstBlock_none (fun t => afterTagLine_of_no_tag) hnone,
    h.firstBlock_none (fun _ h => h) hnone, h.firstBlock_any, Option.none_or, Option.none_or,
    Option.some_or]

/-- Without a fence there is no block. -/
theorem fenced?_unfenced {reply : Text} (h : Unfenced reply) : fenced? reply = none := by
  rw [fenced?, taggedLine_eq, taggedInline_eq, anyLine_eq, anyInline_eq]
  simp [firstBlock_unfenced _ h]

/-- From a reply with blocks the candidate is what is chosen by rank, without blanks around it, and
something is chosen in every such reply. -/
theorem ofReply_chosen {reply : Text} {blocks : List Block} (h : Holds reply blocks) :
    (∃ part, Chosen reply blocks part) ∧
      ∀ {part : Text}, Chosen reply blocks part → ofReply reply = Text.trim part := by
  refine ⟨exists_chosen reply blocks, fun {part} hpart => ?_⟩
  have hbody : ∀ body : Text, fenced? reply = some (body ++ [.char '\n']) →
      ofReply reply = Text.trim body := by
    intro body hfenced
    rw [ofReply, hfenced]
    exact Text.trim_concat (by decide) body
  cases hpart with
  | tagged hbefore htagged => exact hbody _ (h.fenced_tagged hbefore htagged)
  | first hnone => exact hbody _ (h.fenced_first hnone)
  | source hsource =>
    cases h with
    | chatter hfree =>
      rw [ofReply, fenced?_unfenced hfree, fromOpeningTag?_eq_some hsource]
      exact congrArg Text.trim (beforeFence_unfenced (hfree.of_infix hsource.suffix.isInfix))
  | whole hnone =>
    cases h with
    | chatter hfree =>
      rw [ofReply, fenced?_unfenced hfree, fromOpeningTag?_eq_none_iff.mpr hnone]

/-- The tagged block is chosen though another one precedes it. -/
theorem ofReply_chosen_tagged :
    let other : Block := { info := [], body := "not this one" }
    let tagged : Block := { info := " PHP 8", body := "<?php class UserRequest \x7b\x7d" }
    let reply : Text := Text.ofString "First an example:\n" ++ (other.text ++
      (Text.ofString "\nAnd the file:\n" ++ (tagged.text ++ Text.ofString "\n")))
    Holds reply [other, tagged] ∧ Chosen reply [other, tagged] tagged.body ∧
      ofReply reply = Text.trim tagged.body := by
  intro other tagged reply
  have hlast : Holds (Text.ofString "\nAnd the file:\n" ++ (tagged.text ++ Text.ofString "\n"))
      [tagged] :=
    .block ⟨by decide, by decide⟩ ⟨by decide, by decide, by decide⟩ (Or.inr ⟨[], rfl⟩)
      (.chatter (by decide))
  have hreply : Holds reply [other, tagged] :=
    .block ⟨by decide, by decide⟩ ⟨by decide, by decide, by decide⟩ (Or.inr ⟨_, rfl⟩) hlast
  have hbefore : ∀ b ∈ [other], ¬ b.Tagged := by decide
  have hchosen : Chosen reply [other, tagged] tagged.body := .tagged hbefore (by decide)
  exact ⟨hreply, hchosen, (ofReply_chosen hreply).2 hchosen⟩

end Scaffold.Source
