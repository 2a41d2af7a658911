import Scaffold.Proofs.Text.Search
import Scaffold.Source.Declaration

/-!
# What a source text declares

`Source.declares` is a search from left to right; `Declares` says the same by how the text splits:
something that no word ends, a keyword, blanks, the name, and something that goes on with neither
a word nor a namespace (`declares_iff`). In this form it is plain that a declaration stays when
text is put around its text or taken off its ends, as long as its own two ends stay.

The completed file (`withHeader`) is such a case: it starts with the opening tag, ends with one
line feed and no other blank, and declares what the source declares (`declares_withHeader`).
-/

namespace Scaffold.Source

open Text (Firm trim isBlank startsWith)

/-! ## Declarations as splits -/

/-- The words of a declaration of a name: a keyword, blanks, the name. -/
def IsHead (name head : Text) : Prop :=
  ∃ keyword ∈ declarationKeywords, ∃ gap : Text,
    gap ≠ [] ∧ (∀ c ∈ gap, c.isBlank = true) ∧ head = keyword ++ gap ++ name

/-- Before a declaration no word goes on. -/
def OpensWord (before : Text) : Prop := ∀ c, before.getLast? = some c → c.isWord = false

/-- After a name neither a word nor a namespace goes on. -/
def EndsName (after : Text) : Prop := ∀ c, after.head? = some c → c.isWord = false ∧ c ≠ '\\'

/-- The source declares the name somewhere. -/
def Declares (source name : Text) : Prop :=
  ∃ before head after, source = before ++ head ++ after ∧
    OpensWord before ∧ IsHead name head ∧ EndsName after

/-- A text begins with a name and an end of names after it. -/
theorem namesHere_iff {name t : Text} :
    namesHere name t = true ↔ ∃ after, t = name ++ after ∧ EndsName after := by
  constructor
  · intro h
    unfold namesHere at h
    split at h
    next hdrop =>
      refine ⟨[], Text.eq_append_of_dropStart? hdrop, ?_⟩
      intro c hc
      cases hc
    next c after hdrop =>
      refine ⟨c :: after, Text.eq_append_of_dropStart? hdrop, ?_⟩
      intro d hd
      obtain rfl : c = d := by simpa using hd
      simpa using h
    next => cases h
  · intro hparts
    obtain ⟨after, rfl, hend⟩ := hparts
    unfold namesHere
    rw [Text.dropStart?_append]
    cases after with
    | nil => rfl
    | cons c after =>
      obtain ⟨hword, hslash⟩ := hend c rfl
      simp [hword, hslash]

/-- The name comes after blanks, at least one. -/
theorem namesAfterBlanks_iff {name t : Text} :
    namesAfterBlanks name t = true ↔
      ∃ gap rest, t = gap ++ rest ∧ gap ≠ [] ∧ (∀ c ∈ gap, c.isBlank = true) ∧
        namesHere name rest = true := by
  induction t with
  | nil =>
    constructor
    · intro h
      cases h
    · intro hparts
      obtain ⟨gap, rest, h, hne, -, -⟩ := hparts
      exact absurd (List.append_eq_nil_iff.mp h.symm).1 hne
  | cons c t ih =>
    rw [namesAfterBlanks, Bool.and_eq_true, Bool.or_eq_true, ih]
    constructor
    · intro hcases
      -- The name stands right after this blank, or after more of them.
      rcases hcases with ⟨hc, hhere | ⟨gap, rest, rfl, -, hgap, hhere⟩⟩
      · exact ⟨[c], t, rfl, by simp, by simpa using hc, hhere⟩
      · refine ⟨c :: gap, rest, rfl, by simp, ?_, hhere⟩
        intro d hd
        rcases List.mem_cons.mp hd with rfl | hd
        · exact hc
        · exact hgap d hd
    · intro hparts
      obtain ⟨gap, rest, h, hne, hgap, hhere⟩ := hparts
      cases gap with
      | nil => exact absurd rfl hne
      | cons d gap =>
        obtain ⟨rfl, rfl⟩ := List.cons.inj h
        refine ⟨hgap c (List.mem_cons_self ..), ?_⟩
        cases gap with
        | nil => exact Or.inl hhere
        | cons e gap =>
          exact Or.inr ⟨e :: gap, rest, rfl, by simp,
            fun x hx => hgap x (List.mem_cons_of_mem _ hx), hhere⟩

/-- A keyword, blanks and the name make the head of a declaration. -/
theorem declaresHere_iff {name t : Text} :
    declaresHere name t = true ↔ ∃ head after, t = head ++ after ∧ IsHead name head ∧
      EndsName after := by
  rw [declaresHere, List.any_eq_true]
  constructor
  · intro hparts
    obtain ⟨keyword, hkeyword, h⟩ := hparts
    split at h
    next rest hdrop =>
      obtain ⟨gap, tail, rfl, hne, hgap, hhere⟩ := namesAfterBlanks_iff.mp h
      obtain ⟨after, rfl, hend⟩ := namesHere_iff.mp hhere
      refine ⟨keyword ++ gap ++ name, after, ?_, ⟨keyword, hkeyword, gap, hne, hgap, rfl⟩, hend⟩
      rw [Text.eq_append_of_dropStart? hdrop]
      simp
    next => cases h
  · intro hparts
    obtain ⟨head, after, rfl, ⟨keyword, hkeyword, gap, hne, hgap, rfl⟩, hend⟩ := hparts
    refine ⟨keyword, hkeyword, ?_⟩
    have hhere : namesHere name (name ++ after) = true := namesHere_iff.mpr ⟨after, rfl, hend⟩
    rw [List.append_assoc, List.append_assoc, Text.dropStart?_append]
    exact namesAfterBlanks_iff.mpr ⟨gap, name ++ after, rfl, hne, hgap, hhere⟩

/-- The search finds a declaration wherever one stands; what precedes the text decides only about
its very start. -/
theorem declaresFrom_iff {name : Text} :
    ∀ {t : Text} {inWord : Bool}, declaresFrom name inWord t = true ↔
      ∃ before rest, t = before ++ rest ∧ rest ≠ [] ∧ declaresHere name rest = true ∧
        (before = [] → inWord = false) ∧ OpensWord before := by
  intro t
  induction t with
  | nil =>
    intro inWord
    constructor
    · intro h
      cases h
    · intro hparts
      obtain ⟨before, rest, h, hne, -⟩ := hparts
      exact absurd (List.append_eq_nil_iff.mp h.symm).2 hne
  | cons c t ih =>
    intro inWord
    rw [declaresFrom, Bool.or_eq_true, Bool.and_eq_true, ih]
    constructor
    · intro hcases
      -- A declaration stands right here, or in the rest, which this code point precedes.
      rcases hcases with ⟨hword, hhere⟩ | ⟨before, rest, rfl, hne, hhere, hstart, hopens⟩
      · refine ⟨[], c :: t, rfl, by simp, hhere, (fun _ => by simpa using hword), ?_⟩
        intro d hd
        cases hd
      · refine ⟨c :: before, rest, rfl, hne, hhere, (fun h => by cases h), ?_⟩
        intro d hd
        cases before with
        | nil =>
          obtain rfl : c = d := by simpa using hd
          exact hstart rfl
        | cons e before => exact hopens d (by rwa [List.getLast?_cons_cons] at hd)
    · intro hparts
      obtain ⟨before, rest, h, hne, hhere, hstart, hopens⟩ := hparts
      cases before with
      | nil =>
        obtain rfl : c :: t = rest := h
        exact Or.inl ⟨by simpa using hstart rfl, hhere⟩
      | cons d before =>
        obtain ⟨rfl, rfl⟩ := List.cons.inj h
        refine Or.inr ⟨before, rest, rfl, hne, hhere, ?_, ?_⟩
        · intro heq
          subst heq
          exact hopens c rfl
        · intro e he
          cases before with
          | nil => cases he
          | cons b before => exact hopens e (by rwa [List.getLast?_cons_cons])

/-- A head begins with something that is no blank. -/
theorem IsHead.first {name head : Text} (h : IsHead name head) :
    ∃ c rest, head = c :: rest ∧ c.isBlank = false := by
  obtain ⟨keyword, hkeyword, gap, -, -, rfl⟩ := h
  have hfirst : ∀ k ∈ declarationKeywords, ∃ c rest, k = c :: rest ∧ c.isBlank = false := by
    intro k hk
    simp only [declarationKeywords, List.mem_cons, List.not_mem_nil, or_false] at hk
    rcases hk with rfl | rfl | rfl | rfl <;> exact ⟨_, _, rfl, by decide⟩
  obtain ⟨c, rest, rfl, hc⟩ := hfirst keyword hkeyword
  exact ⟨c, rest ++ gap ++ name, by simp, hc⟩

/-- A source text is accepted for a name exactly if it declares it. -/
theorem declares_iff {source name : Text} (hname : name ≠ []) :
    declares source name = true ↔ Declares source name := by
  have hnonempty : (!name.isEmpty) = true := by simpa using hname
  rw [declares, hnonempty, Bool.true_and, declaresFrom_iff]
  constructor
  · intro hparts
    obtain ⟨before, rest, rfl, -, hhere, -, hopens⟩ := hparts
    obtain ⟨head, after, rfl, hhead, hend⟩ := declaresHere_iff.mp hhere
    exact ⟨before, head, after, by simp, hopens, hhead, hend⟩
  · intro hparts
    obtain ⟨before, head, after, rfl, hopens, hhead, hend⟩ := hparts
    refine ⟨before, head ++ after, by simp, ?_, ?_, fun _ => rfl, hopens⟩
    · obtain ⟨c, rest, rfl, -⟩ := hhead.first
      simp
    · exact declaresHere_iff.mpr ⟨head, after, rfl, hhead, hend⟩

/-! ## Complete files -/

/-- The words of a declaration are firm if the name does not end in a blank. -/
theorem IsHead.firm {name head : Text} (h : IsHead name head)
    (hname : ∃ init c, name = init ++ [c] ∧ c.isBlank = false) : Firm head := by
  refine ⟨h.first, ?_⟩
  obtain ⟨keyword, -, gap, -, -, rfl⟩ := h
  obtain ⟨init, c, rfl, hc⟩ := hname
  exact ⟨keyword ++ gap ++ init, c, by simp, hc⟩

/-- A declaration stays when blanks are taken off the ends of its text. -/
theorem Declares.trim {source name : Text} (h : Declares source name)
    (hname : ∃ init c, name = init ++ [c] ∧ c.isBlank = false) : Declares (trim source) name := by
  obtain ⟨before, head, after, rfl, hopens, hhead, hend⟩ := h
  refine ⟨_, head, _, Text.trim_around (hhead.firm hname) before after, ?_, hhead, ?_⟩
  · intro c hc
    obtain ⟨lost, hlost⟩ := Text.trimStart_suffix CodePoint.isBlank before
    exact hopens c (by rw [← hlost, List.getLast?_append, hc]; rfl)
  · intro c hc
    obtain ⟨lost, hlost⟩ := Text.trimEnd_prefix CodePoint.isBlank after
    exact hend c (by rw [← hlost, List.head?_append, hc]; rfl)

/-- A declaration stays when something is put around its text that goes on with no word. -/
theorem Declares.around {source name lead trail : Text} (h : Declares source name)
    (hlead : OpensWord lead) (htrail : EndsName trail) :
    Declares (lead ++ source ++ trail) name := by
  obtain ⟨before, head, after, rfl, hopens, hhead, hend⟩ := h
  refine ⟨lead ++ before, head, after ++ trail, by simp, ?_, hhead, ?_⟩
  · intro c hc
    rw [List.getLast?_append] at hc
    cases hb : before.getLast? with
    | none => exact hlead c (by rwa [hb, Option.none_or] at hc)
    | some b => exact hopens c (by rwa [hb, Option.some_or, ← hb] at hc)
  · intro c hc
    cases after with
    | nil => exact htrail c hc
    | cons b after => exact hend c hc

/-- What a completed file has before the source: nothing, or the opening tag. -/
def lead (source : Text) : Text :=
  if startsWith (trim source) openingTag then [] else openingTag ++ "\n\n"

/-- A completed file is what may have to stand before the source, the source without blanks around
it, and a line feed. -/
theorem withHeader_eq (source : Text) :
    withHeader source = lead source ++ trim source ++ [.char '\n'] := by
  by_cases h : startsWith (trim source) openingTag = true
  · simp [withHeader, lead, h, Text.ofString]
  · simp [withHeader, lead, h, Text.ofString, Text.concat]

theorem opensWord_lead (source : Text) : OpensWord (lead source) := by
  intro c hc
  unfold lead at hc
  split at hc
  next => cases hc
  next =>
    obtain rfl : CodePoint.char '\n' = c := Option.some.inj hc
    decide

/-- The completed file declares what the source declares. -/
theorem declares_withHeader {source name : Text} (h : declares source name = true)
    (hname : ∃ init c, name = init ++ [c] ∧ c.isBlank = false) :
    declares (withHeader source) name = true := by
  have hne : name ≠ [] := by
    obtain ⟨init, c, rfl, -⟩ := hname
    simp
  rw [declares_iff hne] at h ⊢
  rw [withHeader_eq]
  refine (h.trim hname).around (opensWord_lead source) ?_
  intro c hc
  obtain rfl : CodePoint.char '\n' = c := Option.some.inj hc
  decide

/-- A completed file begins with the opening tag. -/
theorem startsWith_withHeader (source : Text) :
    startsWith (withHeader source) openingTag = true := by
  rw [withHeader_eq, lead, Text.startsWith_iff]
  split
  next h =>
    obtain ⟨rest, hrest⟩ := Text.startsWith_iff.mp h
    exact ⟨rest ++ [.char '\n'], by rw [← hrest]; simp⟩
  next => exact ⟨Text.ofString "\n\n" ++ trim source ++ [.char '\n'], by simp⟩

/-- The completed file of a source that is not blank ends with a line feed and no other blank. -/
theorem withHeader_eq_trim {source : Text} (h : isBlank source = false) :
    withHeader source = trim (withHeader source) ++ [.char '\n'] := by
  -- What stands before the line feed is firm, so trimming takes off the line feed alone.
  have hbody := Text.firm_trim h
  have hfirm : Firm (lead source ++ trim source) := by
    refine ⟨?_, ?_⟩
    · unfold lead
      split
      next => exact hbody.first
      next => exact ⟨_, _, rfl, by decide⟩
    · obtain ⟨init, c, hlast, hc⟩ := hbody.last
      exact ⟨lead source ++ init, c, by rw [hlast]; simp, hc⟩
  have htrim := Text.trim_around hfirm [] [.char '\n']
  rw [show Text.trimEnd CodePoint.isBlank [CodePoint.char '\n'] = [] by decide,
    show Text.trimStart CodePoint.isBlank [] = [] from rfl] at htrim
  rw [List.nil_append, List.append_nil] at htrim
  rw [withHeader_eq, htrim]

/-- Blanks declare nothing. -/
theorem isBlank_of_declares {source name : Text} (h : declares source name = true) :
    isBlank source = false := by
  have hne : name ≠ [] := by
    intro heq
    subst heq
    cases h
  obtain ⟨before, head, after, rfl, -, hhead, -⟩ := (declares_iff hne).mp h
  obtain ⟨c, rest, rfl, hc⟩ := hhead.first
  rw [isBlank, List.all_eq_false]
  exact ⟨c, by simp, by simp [hc]⟩

end Scaffold.Source
