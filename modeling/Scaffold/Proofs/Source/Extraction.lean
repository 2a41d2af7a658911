import Scaffold.Proofs.Source.Declaration

/-!
# What is taken out of a reply

A candidate is a stretch of the reply, whatever way it was found (`infix_ofReply`): nothing is made
up, and a reply of blanks has no candidate that declares anything.

Each part of the search leaves an end or takes a beginning of what it was given, and a stretch is a
beginning of an end. The four openings are put in one form, a fence with something after it
(`afterFence`), so that one lemma serves all of them; the modules about fences and blocks use the
same form.
-/

namespace Scaffold.Source

/-! ## Openings -/

/-- What an opening leaves is the end of the text it opens. -/
def Leaves (opening : Opening) : Prop := ∀ t rest : Text, opening t = some rest → rest <:+ t

/-- What is left after folded letters is the end of the text. -/
theorem suffix_of_dropFolded? {letters : List Char} {t rest : Text}
    (h : Text.dropFolded? letters t = some rest) : rest <:+ t := by
  induction letters generalizing t with
  | nil =>
    cases h
    exact List.suffix_refl _
  | cons letter letters ih =>
    cases t with
    | nil => cases h
    | cons c t =>
      rw [Text.dropFolded?] at h
      split at h
      next => exact (ih h).trans (List.suffix_cons c t)
      next => cases h

/-- The tag leaves an end of the text. -/
theorem leaves_afterTag : Leaves afterTag? := by
  intro t rest h
  obtain ⟨tagged, htagged, h⟩ := Option.bind_eq_some_iff.mp h
  split at h
  next =>
    cases h
    exact (suffix_of_dropFolded? htagged).trans (List.dropWhile_suffix _)
  next => cases h

/-- The rest of a line leaves an end of the text. -/
theorem leaves_afterLine : Leaves afterLine? := by
  intro t rest h
  unfold afterLine? at h
  split at h
  next hline =>
    cases h
    exact (List.suffix_cons _ _).trans (hline ▸ List.dropWhile_suffix _)
  next => cases h

/-- An opening after another. -/
theorem Leaves.bind {first second : Opening} (h : Leaves first) (h' : Leaves second) :
    Leaves fun t => (first t).bind second := by
  intro t rest hrest
  obtain ⟨between, hbetween, hrest⟩ := Option.bind_eq_some_iff.mp hrest
  exact (h' between rest hrest).trans (h t between hbetween)

/-- What an opening asks for after its fence. -/
def afterFence (next : Opening) : Opening := fun t => (Text.dropStart? fence t).bind next

/-- What an opening with a tag and a line asks for. -/
def afterTagLine : Opening := fun t => (afterTag? t).bind afterLine?

theorem taggedLine_eq : taggedLine = afterFence afterTagLine := rfl

theorem taggedInline_eq : taggedInline = afterFence afterTag? := rfl

theorem anyLine_eq : anyLine = afterFence afterLine? := rfl

theorem anyInline_eq : anyInline = afterFence some := by
  funext t
  unfold anyInline afterFence
  cases Text.dropStart? fence t <;> rfl

theorem leaves_afterTagLine : Leaves afterTagLine := leaves_afterTag.bind leaves_afterLine

theorem leaves_some : Leaves some := by
  intro t rest h
  cases h
  exact List.suffix_refl t

/-! ## Candidates -/

/-- A body is the beginning of what follows its opening. -/
theorem prefix_of_body? {t body : Text} (h : body? t = some body) : body <+: t := by
  obtain ⟨⟨before, after⟩, hcut, rfl⟩ := Option.map_eq_some_iff.mp h
  rw [Text.eq_of_cutAt hcut, List.append_assoc]
  exact List.prefix_append before _

theorem prefix_beforeFence (t : Text) : beforeFence t <+: t := by
  unfold beforeFence
  cases h : body? t with
  | none => exact List.prefix_refl t
  | some body => exact prefix_of_body? h

/-- A block that is found opens somewhere in the text. -/
theorem firstBlock_found {opening : Opening} {t body : Text}
    (h : firstBlock opening t = some body) :
    ∃ start inside, start <:+ t ∧ opening start = some inside ∧ body? inside = some body := by
  induction t with
  | nil => cases h
  | cons c rest ih =>
    rcases Option.or_eq_some_iff.mp h with hhere | ⟨_, hlater⟩
    · obtain ⟨inside, hinside, hbody⟩ := Option.bind_eq_some_iff.mp hhere
      exact ⟨c :: rest, inside, List.suffix_refl _, hinside, hbody⟩
    · obtain ⟨start, inside, hstart, hinside, hbody⟩ := ih hlater
      exact ⟨start, inside, hstart.trans (List.suffix_cons c rest), hinside, hbody⟩

/-- A block opens at a fence of the reply, and its body begins somewhere behind that fence. -/
theorem fenced?_found {reply body : Text} (h : fenced? reply = some body) :
    ∃ before between inside, reply = before ++ (fence ++ (between ++ inside)) ∧
      body? inside = some body := by
  -- The openings are tried one after another, each through the whole reply.
  have hsearch : ∃ next, Leaves next ∧ firstBlock (afterFence next) reply = some body := by
    rw [fenced?, taggedLine_eq, taggedInline_eq, anyLine_eq, anyInline_eq] at h
    rcases Option.or_eq_some_iff.mp h with h | ⟨_, h⟩
    · exact ⟨_, leaves_afterTagLine, h⟩
    rcases Option.or_eq_some_iff.mp h with h | ⟨_, h⟩
    · exact ⟨_, leaves_afterTag, h⟩
    rcases Option.or_eq_some_iff.mp h with h | ⟨_, h⟩
    · exact ⟨_, leaves_afterLine, h⟩
    · exact ⟨_, leaves_some, h⟩
  obtain ⟨next, hnext, hfirst⟩ := hsearch
  obtain ⟨start, inside, ⟨before, rfl⟩, hopening, hbody⟩ := firstBlock_found hfirst
  obtain ⟨t, ht, hinside⟩ := Option.bind_eq_some_iff.mp hopening
  obtain ⟨between, rfl⟩ := hnext t inside hinside
  exact ⟨before, between, inside, by rw [Text.eq_append_of_dropStart? ht], hbody⟩

/-- The body of a block is a stretch of the reply. -/
theorem infix_fenced {reply body : Text} (h : fenced? reply = some body) : body <:+: reply := by
  obtain ⟨before, between, inside, rfl, hbody⟩ := fenced?_found h
  refine (prefix_of_body? hbody).isInfix.trans ⟨before ++ (fence ++ between), [], ?_⟩
  simp

/-- What begins with the opening tag is the end of the reply. -/
theorem suffix_of_fromOpeningTag? {reply source : Text} (h : fromOpeningTag? reply = some source) :
    source <:+ reply := by
  induction reply with
  | nil => cases h
  | cons c rest ih =>
    have hlater : fromOpeningTag? rest = some source → source <:+ c :: rest :=
      fun h => (ih h).trans (List.suffix_cons c rest)
    unfold fromOpeningTag? at h
    split at h
    next =>
      split at h
      next =>
        cases h
        exact List.suffix_refl _
      next => exact hlater h
    next => exact hlater h

/-- What is left without blanks is a stretch of the text. -/
theorem infix_trim (t : Text) : Text.trim t <:+: t :=
  (Text.trimEnd_prefix _ _).isInfix.trans (Text.trimStart_suffix _ t).isInfix

/-- A candidate is a stretch of the reply. -/
theorem infix_ofReply (reply : Text) : ofReply reply <:+: reply := by
  unfold ofReply
  split
  next body hbody => exact (infix_trim body).trans (infix_fenced hbody)
  next =>
    split
    next source hsource =>
      exact ((infix_trim _).trans (prefix_beforeFence source).isInfix).trans
        (suffix_of_fromOpeningTag? hsource).isInfix
    next => exact infix_trim reply

/-- A reply whose candidate declares something is not blank. -/
theorem isBlank_of_declares_ofReply {reply name : Text}
    (h : declares (ofReply reply) name = true) : Text.isBlank reply = false := by
  have hcandidate := isBlank_of_declares h
  rw [Text.isBlank, List.all_eq_false] at hcandidate ⊢
  obtain ⟨c, hc, hblank⟩ := hcandidate
  exact ⟨c, (infix_ofReply reply).subset hc, hblank⟩

end Scaffold.Source
