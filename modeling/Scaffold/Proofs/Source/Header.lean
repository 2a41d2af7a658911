import Mathlib.Data.List.TakeWhile
import Scaffold.Proofs.Source.Runs

/-!
# What the header leaves alone

To complete a source text as a file, blanks are taken off its ends, the opening tag is put before
it if it lacks one, and a line feed after it. None of this makes a declaration or destroys one: a
declaration begins with a letter that the opening tag does not have and ends with a name that ends
in no blank, so a declaration of the file lies within the source (`Declares.within`). A complete
file is left as it is (`withHeader_neutral`).
-/

namespace Scaffold.Text

/-- Trimming takes blanks off the two ends, and nothing else. -/
theorem exists_around_trim (t : Text) :
    ∃ before after, t = before ++ trim t ++ after ∧ (∀ c ∈ before, c.isBlank = true) ∧
      ∀ c ∈ after, c.isBlank = true := by
  let rest := trimStart CodePoint.isBlank t
  have hstart : t.takeWhile CodePoint.isBlank ++ rest = t := List.takeWhile_append_dropWhile
  have hend : trim t ++ (rest.reverse.takeWhile CodePoint.isBlank).reverse = rest := by
    have hreversed := congrArg List.reverse
      (List.takeWhile_append_dropWhile (p := CodePoint.isBlank) (l := rest.reverse))
    rwa [List.reverse_append, List.reverse_reverse] at hreversed
  refine ⟨t.takeWhile CodePoint.isBlank, (rest.reverse.takeWhile CodePoint.isBlank).reverse,
    ?_, ?_, ?_⟩
  · rw [List.append_assoc, hend, hstart]
  · exact fun c hc => List.mem_takeWhile_imp hc
  · exact fun c hc => List.mem_takeWhile_imp (List.mem_reverse.mp hc)

end Scaffold.Text

namespace Scaffold.Source

open Text (Firm trim isBlank startsWith)

/-! ## Declarations within a file -/

/-- Before blanks no name goes on. -/
theorem endsName_of_blank {after : Text} (h : ∀ c ∈ after, c.isBlank = true) : EndsName after := by
  intro c hc
  have hblank := h c (List.mem_of_head? hc)
  refine ⟨isWord_of_isBlank hblank, ?_⟩
  rintro rfl
  exact absurd hblank (by decide)

/-- After blanks no word goes on. -/
theorem opensWord_of_blank {before : Text} (h : ∀ c ∈ before, c.isBlank = true) :
    OpensWord before :=
  fun c hc => isWord_of_isBlank (h c (List.mem_of_getLast? hc))

/-- No keyword begins with what a completed file has before the source. -/
theorem IsHead.first_not_mem_lead {name head : Text} (h : IsHead name head) (source : Text) :
    ∃ c rest, head = c :: rest ∧ c ∉ lead source := by
  obtain ⟨keyword, hkeyword, gap, -, -, rfl⟩ := h
  have hfirst : ∀ k ∈ declarationKeywords, ∃ c rest, k = c :: rest ∧
      c ∉ openingTag ++ Text.ofString "\n\n" := by
    intro k hk
    simp only [declarationKeywords, List.mem_cons, List.not_mem_nil, or_false] at hk
    rcases hk with rfl | rfl | rfl | rfl <;> exact ⟨_, _, rfl, by decide⟩
  obtain ⟨c, rest, rfl, hc⟩ := hfirst keyword hkeyword
  refine ⟨c, rest ++ gap ++ name, rfl, ?_⟩
  unfold lead
  split
  next => exact List.not_mem_nil
  next => exact hc

/-- A declaration lies within a text if no keyword begins before the text and only blanks come
after it. -/
theorem Declares.within {before text after name : Text}
    (h : Declares (before ++ text ++ after) name)
    (hbefore : ∀ head, IsHead name head → ∃ c rest, head = c :: rest ∧ c ∉ before)
    (hafter : ∀ c ∈ after, c.isBlank = true)
    (hname : ∃ init c, name = init ++ [c] ∧ c.isBlank = false) : Declares text name := by
  obtain ⟨opened, head, closed, hsplit, hopens, hhead, hends⟩ := h
  obtain ⟨c, rest, hfirst, hc⟩ := hbefore head hhead
  obtain ⟨init, d, hlast, hd⟩ := (hhead.firm hname).last
  -- The first letter of the declaration stands behind what is before the text.
  obtain ⟨inner, rfl, hinner⟩ : ∃ inner, opened = before ++ inner ∧
      text ++ after = inner ++ head ++ closed := by
    rw [List.append_assoc, List.append_assoc, List.append_eq_append_iff] at hsplit
    rcases hsplit with ⟨inner, hopened, h⟩ | ⟨inner, hlead, h⟩
    · exact ⟨inner, hopened, by rw [h, List.append_assoc]⟩
    · cases inner with
      | nil => exact ⟨[], by simpa using hlead.symm, by simpa using h.symm⟩
      | cons e inner =>
        rw [hfirst] at h
        obtain rfl := (List.cons.inj h).1
        exact absurd (hlead ▸ List.mem_append_right opened (List.mem_cons_self ..)) hc
  -- Its last stands before the blanks.
  obtain ⟨tail, rfl, rfl⟩ : ∃ tail, closed = tail ++ after ∧ text = inner ++ head ++ tail := by
    rw [List.append_eq_append_iff] at hinner
    rcases hinner with ⟨tail, h, hblanks⟩ | ⟨tail, htext, h⟩
    · rcases List.eq_nil_or_concat tail with rfl | ⟨others, e, rfl⟩
      · exact ⟨[], by simpa using hblanks.symm, by simpa using h.symm⟩
      · rw [hlast, List.concat_eq_append, ← List.append_assoc, ← List.append_assoc] at h
        obtain rfl := List.singleton_inj.mp (List.append_inj' h rfl).2
        rw [hafter d (by rw [hblanks]; simp)] at hd
        cases hd
    · exact ⟨tail, h, htext⟩
  refine ⟨inner, head, tail, rfl, ?_, hhead, ?_⟩
  · exact fun e he => hopens e (by rw [List.getLast?_append, he]; rfl)
  · exact fun e he => hends e (by rw [List.head?_append, he]; rfl)

/-- A source text declares what it declares without the blanks at its ends. -/
theorem declares_trim_iff {source name : Text}
    (hname : ∃ init c, name = init ++ [c] ∧ c.isBlank = false) :
    Declares (trim source) name ↔ Declares source name := by
  refine ⟨fun h => ?_, fun h => h.trim hname⟩
  obtain ⟨before, after, hsource, hbefore, hafter⟩ := Text.exists_around_trim source
  rw [hsource]
  exact h.around (opensWord_of_blank hbefore) (endsName_of_blank hafter)

/-- A completed file declares what the source declares. -/
theorem declares_withHeader_iff {source name : Text}
    (hname : ∃ init c, name = init ++ [c] ∧ c.isBlank = false) :
    declares (withHeader source) name = true ↔ declares source name = true := by
  refine ⟨fun h => ?_, fun h => declares_withHeader h hname⟩
  have hne : name ≠ [] := by
    obtain ⟨init, c, rfl, -⟩ := hname
    simp
  rw [declares_iff hne] at h ⊢
  rw [withHeader_eq] at h
  refine (declares_trim_iff hname).mp (h.within (fun head hhead => ?_) ?_ hname)
  · exact hhead.first_not_mem_lead source
  · decide

/-! ## Complete files -/

/-- A text that begins with the opening tag and ends with a line feed after something firm is
complete. -/
theorem withHeader_of_complete {body : Text} (hfirm : Firm body)
    (htag : startsWith body openingTag = true) :
    withHeader (body ++ [.char '\n']) = body ++ [.char '\n'] := by
  have htrim : trim (body ++ [.char '\n']) = body := by
    rw [Text.trim_concat (by decide), Text.trim_of_firm hfirm]
  rw [withHeader_eq, lead, htrim, if_pos htag, List.nil_append]

/-- What stands in a completed file before its line feed. -/
theorem exists_body_withHeader {source : Text} (h : isBlank source = false) :
    ∃ body, Firm body ∧ startsWith body openingTag = true ∧
      withHeader source = body ++ [.char '\n'] := by
  have hnot : isBlank (withHeader source) = false := by
    obtain ⟨rest, hrest⟩ := Text.startsWith_iff.mp (startsWith_withHeader source)
    rw [← hrest]
    rfl
  refine ⟨trim (withHeader source), Text.firm_trim hnot, ?_, withHeader_eq_trim h⟩
  have htag := startsWith_withHeader source
  rw [withHeader_eq_trim h, Text.startsWith_iff] at htag
  exact Text.startsWith_iff.mpr (Text.prefix_before_barrier (by decide) htag)

/-- To complete a source text as a file neither adds nor loses a declaration. The file starts with
the opening tag and ends with exactly one line feed, and to complete it again changes nothing. The
source must not be blank, and the name must have no blanks at its ends. -/
theorem withHeader_neutral {source name : Text} (hsource : isBlank source = false)
    (hname : trim name = name) :
    declares (withHeader source) name = declares source name ∧
      openingTag <+: withHeader source ∧
      (∃ body last, withHeader source = body ++ [last, .char '\n'] ∧ last ≠ .char '\n') ∧
      withHeader (withHeader source) = withHeader source := by
  obtain ⟨body, hfirm, htag, hbody⟩ := exists_body_withHeader hsource
  refine ⟨?_, Text.startsWith_iff.mp (startsWith_withHeader source), ?_, ?_⟩
  · cases hblank : isBlank name with
    | true =>
      -- A blank name without blanks at its ends is empty, and nothing declares it.
      obtain rfl : name = [] := hname ▸ Text.trim_of_isBlank hblank
      rfl
    | false =>
      have hlast := (Text.firm_trim hblank).last
      rw [hname] at hlast
      exact Bool.eq_iff_iff.mpr (declares_withHeader_iff hlast)
  · obtain ⟨init, last, rfl, hlast⟩ := hfirm.last
    refine ⟨init, last, by rw [hbody, List.append_assoc]; rfl, ?_⟩
    rintro rfl
    exact absurd hlast (by decide)
  · rw [hbody, withHeader_of_complete hfirm htag]

/-- A declaration that is all of the source, but for blanks, and one that is none. -/
theorem withHeader_neutral_user :
    declares (withHeader " \tclass User\n\n") "User" = true ∧
      declares (withHeader "subclass User") "User" = false ∧
      withHeader (withHeader " \tclass User\n\n") = withHeader " \tclass User\n\n" := by
  have hname : trim (Text.ofString "User") = Text.ofString "User" := by decide
  have hdeclaring : isBlank (Text.ofString " \tclass User\n\n") = false := by decide
  have hother : isBlank (Text.ofString "subclass User") = false := by decide
  obtain ⟨hdeclared, -, -, hagain⟩ := withHeader_neutral hdeclaring hname
  obtain ⟨hundeclared, -⟩ := withHeader_neutral hother hname
  exact ⟨hdeclared.trans (by decide +kernel), hundeclared.trans (by decide +kernel), hagain⟩

end Scaffold.Source
