import Scaffold.Proofs.Files.Spelling
import Scaffold.Proofs.Naming.Plural

/-!
# Names in camel case

In camel case the words of a snake-case name are run together. All that is left of its underscores
is the capital of a word that begins with a letter, so a name can be read back up to the
underscores that no capital stands for (`spread_camel`). Two names come to the same in camel case
exactly if they have the same tidy form, which lacks those underscores (`camel_eq_iff`).

Where case is not told either, nothing is left of the underscores at all (`uncased_camel`). So
`foo_bar` and `foobar` have the camel cases `fooBar` and `foobar`, which are different as texts and
the same without case, and `a__b` and `a_b` have one camel case.
-/

namespace Scaffold.Naming

/-! ## Names and words -/

/-- A small letter or a digit. -/
def IsLow (c : CodePoint) : Prop := c.isLower = true ∨ c.isDigit = true

instance (c : CodePoint) : Decidable (IsLow c) := inferInstanceAs (Decidable (_ ∨ _))

/-- The text is made of small letters, digits and underscores. -/
def Snake (t : Text) : Prop := ∀ c ∈ t, IsLow c ∨ c = .char '_'

instance (t : Text) : Decidable (Snake t) := inferInstanceAs (Decidable (∀ c ∈ t, _ ∨ _))

/-- A word of a name: small letters and digits. -/
structure IsWord (w : Text) : Prop where
  nonempty : w ≠ []
  low : ∀ c ∈ w, IsLow c

/-- The words of a name. -/
def wordsOf (name : Text) : List Text := Text.pieces isJoint name

/-- What stands for a word after another: an underscore only before a letter. -/
def joined : Text → Text
  | [] => []
  | c :: rest => if c.isLower then .char '_' :: c :: rest else c :: rest

/-- The name without the underscores that its camel case does not tell. -/
def tidy (name : Text) : Text :=
  match wordsOf name with
  | [] => []
  | w :: ws => w ++ ws.flatMap joined

/-- The text with an underscore before each capital, in lower case. -/
def spread (t : Text) : Text :=
  t.flatMap fun c => if c.isUpper then .char '_' :: c.lower else [c]

/-- The text with small letters for its capitals of ASCII. -/
def uncased (t : Text) : Text := t.flatMap fun c => if c.isUpper then c.lower else [c]

/-- The text without its underscores. -/
def bare (t : Text) : Text := t.filter (· ≠ .char '_')

/-! ## Low code points -/

theorem IsLow.isAlphanumeric {c : CodePoint} (h : IsLow c) : c.isAlphanumeric = true := by
  unfold CodePoint.isAlphanumeric
  rcases h with h | h <;> simp [h]

theorem IsLow.isUpper {c : CodePoint} (h : IsLow c) : c.isUpper = false := by
  rcases h with h | h <;>
    simp only [CodePoint.isLower, CodePoint.isDigit, CodePoint.isUpper, Bool.and_eq_true,
      Bool.and_eq_false_iff, decide_eq_true_eq, decide_eq_false_iff_not] at h ⊢ <;>
    omega

theorem IsLow.ne_underscore {c : CodePoint} (h : IsLow c) : c ≠ .char '_' := by
  rintro rfl
  exact absurd h (by decide)

theorem IsLow.lower {c : CodePoint} (h : IsLow c) : c.lower = [c] := by
  unfold CodePoint.lower
  rw [if_pos (CodePoint.code_of_isAlphanumeric h.isAlphanumeric), h.isUpper]
  rfl

/-- The capital of a small letter is one that goes back to it. -/
theorem upper_letter {c : CodePoint} (h : c.isLower = true) :
    ∃ capital, c.upper = [capital] ∧ capital.isUpper = true ∧ capital.lower = [c] := by
  obtain ⟨capital, hupper, hcode⟩ := upper_small h
  have hcapital : capital.isUpper = true := by
    simp only [CodePoint.isLower, CodePoint.isUpper, Bool.and_eq_true, decide_eq_true_eq] at h ⊢
    omega
  have hlow : capital.code < 0x80 := by
    have := (CodePoint.small_letter h).1
    omega
  refine ⟨capital, hupper, hcapital, ?_⟩
  unfold CodePoint.lower
  rw [if_pos hlow, if_pos hcapital, hcode, CodePoint.ofCode_code]

/-- A capital stays what it is in upper case. -/
theorem upper_capital {c : CodePoint} (h : c.isUpper = true) : c.upper = [c] := by
  simp only [CodePoint.isUpper, Bool.and_eq_true, decide_eq_true_eq] at h
  have hlower : ¬ c.isLower = true := by
    simp only [CodePoint.isLower, Bool.and_eq_true, decide_eq_true_eq]
    omega
  unfold CodePoint.upper
  rw [if_pos (by omega), if_neg hlower]

/-- The capital of a low code point is a single one, which has no other capital and goes back to
it; the capital of a digit is the digit. -/
theorem IsLow.upper {c : CodePoint} (h : IsLow c) :
    ∃ capital, c.upper = [capital] ∧ capital.upper = [capital] ∧ capital.lower = [c] ∧
      spread [capital] = if c.isLower then [.char '_', c] else [c] := by
  by_cases hletter : c.isLower = true
  · obtain ⟨capital, hupper, hcapital, hlower⟩ := upper_letter hletter
    refine ⟨capital, hupper, upper_capital hcapital, hlower, ?_⟩
    simp [spread, hcapital, hlower, hletter]
  · have hupper : c.upper = [c] := by
      unfold CodePoint.upper
      rw [if_pos (CodePoint.code_of_isAlphanumeric h.isAlphanumeric), if_neg hletter]
    refine ⟨c, hupper, hupper, h.lower, ?_⟩
    simp [spread, h.isUpper, hletter]

/-- A word has letters and digits only. -/
theorem IsWord.plain {w : Text} (h : IsWord w) : Plain w :=
  fun c hc => (h.low c hc).isAlphanumeric

/-- Capitals are told apart by their small letters. -/
theorem lower_inj {c d : CodePoint} (hc : c.isUpper = true) (hd : d.isUpper = true)
    {s t : Text} (h : c.lower ++ s = d.lower ++ t) : c = d ∧ s = t := by
  have hform : ∀ {e : CodePoint}, e.isUpper = true →
      e.lower = [.ofCode (e.code + 32)] ∧ e.code + 32 < 0xD800 := by
    intro e he
    have hrange := he
    simp only [CodePoint.isUpper, Bool.and_eq_true, decide_eq_true_eq] at hrange
    unfold CodePoint.lower
    rw [if_pos (by omega), if_pos he]
    exact ⟨rfl, by omega⟩
  obtain ⟨hlower, hsmall⟩ := hform hc
  obtain ⟨hlower', hsmall'⟩ := hform hd
  rw [hlower, hlower'] at h
  obtain ⟨hpoint, rfl⟩ := List.cons.inj h
  have hcode := congrArg CodePoint.code hpoint
  rw [CodePoint.code_ofCode hsmall, CodePoint.code_ofCode hsmall'] at hcode
  exact ⟨CodePoint.code_injective (Nat.add_right_cancel hcode), rfl⟩

/-! ## Camel case and back -/

/-- The words of a snake-case name are words. -/
theorem isWord_of_mem_wordsOf {name : Text} (h : Snake name) {w : Text} (hw : w ∈ wordsOf name) :
    IsWord w := by
  obtain ⟨hpiece, hne⟩ := List.mem_filter.mp hw
  refine ⟨by simpa using hne, fun c hc => ?_⟩
  obtain ⟨hmem, hjoint⟩ := Text.mem_of_mem_splitWhere hpiece c hc
  rcases h c hmem with hlow | rfl
  · exact hlow
  · cases hjoint

/-- In studly case the words stand one after another, each with a capital. -/
theorem studly_eq {name : Text} {words : List Text} (h : wordsOf name = words) :
    studly name = words.flatMap Text.capitalize := by
  rw [studly, show Text.pieces isJoint name = _ from h, List.flatMap_def]

/-- Nothing is left of a name without words. -/
theorem camel_of_no_words {name : Text} (h : wordsOf name = []) : camel name = [] := by
  rw [camel, studly_eq h]
  rfl

/-- The first word stays as it is, and every other gets a capital. -/
theorem camel_eq {name w : Text} {ws : List Text} (hw : IsWord w) (h : wordsOf name = w :: ws) :
    camel name = w ++ ws.flatMap Text.capitalize := by
  rw [camel, studly_eq h, List.flatMap_cons]
  cases w with
  | nil => exact absurd rfl hw.nonempty
  | cons c rest =>
    obtain ⟨capital, hupper, _, hlower, _⟩ := (hw.low c (List.mem_cons_self ..)).upper
    simp [Text.capitalize, Text.uncapitalize, hupper, hlower]

/-- A word that has its capital keeps it. -/
theorem capitalize_capitalize {w : Text} (hw : IsWord w) (rest : Text) :
    Text.capitalize (Text.capitalize w ++ rest) = Text.capitalize w ++ rest := by
  cases w with
  | nil => exact absurd rfl hw.nonempty
  | cons c w =>
    obtain ⟨capital, hupper, hagain, _⟩ := (hw.low c (List.mem_cons_self ..)).upper
    simp [Text.capitalize, hupper, hagain]

/-- Studly case leaves a name in studly case as it is. -/
theorem studly_studly {name : Text} (h : Snake name) : studly (studly name) = studly name := by
  have hplain : Plain (studly name) :=
    plain_studly fun c hc => (h c hc).imp_left IsLow.isAlphanumeric
  rw [studly_plain hplain]
  cases hname : wordsOf name with
  | nil =>
    rw [studly_eq hname]
    rfl
  | cons w ws =>
    have hw : IsWord w := isWord_of_mem_wordsOf h (by rw [hname]; exact List.mem_cons_self ..)
    rw [studly_eq hname, List.flatMap_cons, capitalize_capitalize hw]

/-- The camel case of a class is that of the name it was made from. -/
theorem camel_studly {name : Text} (h : Snake name) : camel (studly name) = camel name := by
  rw [camel, studly_studly h, camel]

/-- A text of low code points is not changed by what leaves each of them as it is. -/
theorem flatMap_low {f : CodePoint → Text} (hf : ∀ c, IsLow c → f c = [c]) {t : Text}
    (h : ∀ c ∈ t, IsLow c) : t.flatMap f = t := by
  induction t with
  | nil => rfl
  | cons c t ih =>
    obtain ⟨hc, ht⟩ := List.forall_mem_cons.mp h
    rw [List.flatMap_cons, hf c hc, ih ht]
    rfl

/-- What is done to the code points of a name in camel case is done to its words: the first is left
as it is, and the others have capitals. -/
theorem flatMap_camel {f : CodePoint → Text} {g : Text → Text} (hf : ∀ c, IsLow c → f c = [c])
    (hg : ∀ w, IsWord w → (Text.capitalize w).flatMap f = g w) {name w : Text} {ws : List Text}
    (h : Snake name) (hname : wordsOf name = w :: ws) :
    (camel name).flatMap f = w ++ ws.flatMap g := by
  have hwords : ∀ v ∈ w :: ws, IsWord v := fun v hv => isWord_of_mem_wordsOf h (hname ▸ hv)
  obtain ⟨hw, hws⟩ := List.forall_mem_cons.mp hwords
  have hlater : ws.map (fun v => (Text.capitalize v).flatMap f) = ws.map g :=
    List.map_congr_left fun v hv => hg v (hws v hv)
  rw [camel_eq hw hname, List.flatMap_append, flatMap_low hf hw.low, List.flatMap_assoc]
  exact congrArg (fun later => w ++ later.flatten) hlater

/-- Reading back goes code point by code point. -/
theorem spread_append (s t : Text) : spread (s ++ t) = spread s ++ spread t :=
  List.flatMap_append

/-- Small letters and digits are read back as they are. -/
theorem spread_low {t : Text} (h : ∀ c ∈ t, IsLow c) : spread t = t :=
  flatMap_low (fun c hc => by rw [hc.isUpper]; rfl) h

/-- The capital of a word stands for an underscore before it. -/
theorem spread_capitalize {w : Text} (h : IsWord w) : spread (Text.capitalize w) = joined w := by
  cases w with
  | nil => rfl
  | cons c rest =>
    obtain ⟨hc, hrest⟩ := List.forall_mem_cons.mp h.low
    obtain ⟨capital, hupper, _, _, hspread⟩ := hc.upper
    rw [Text.capitalize, spread_append, spread_low hrest, joined, hupper, hspread]
    split <;> rfl

/-- The camel case of a name tells its tidy form. -/
theorem spread_camel {name : Text} (h : Snake name) : spread (camel name) = tidy name := by
  unfold tidy
  cases hname : wordsOf name with
  | nil =>
    rw [camel_of_no_words hname]
    rfl
  | cons w ws =>
    exact flatMap_camel (fun c hc => by rw [hc.isUpper]; rfl) (fun _ => spread_capitalize) h hname

/-- A text without underscores is told by its spread form. -/
theorem spread_inj {s t : Text} (hs : CodePoint.char '_' ∉ s) (ht : CodePoint.char '_' ∉ t)
    (h : spread s = spread t) : s = t := by
  induction s generalizing t with
  | nil =>
    cases t with
    | nil => rfl
    | cons d t =>
      rw [spread, spread, List.flatMap_cons] at h
      split at h <;> cases h
  | cons c s ih =>
    obtain ⟨hc, hs⟩ := not_or.mp (mt List.mem_cons.mpr hs)
    cases t with
    | nil =>
      rw [spread, spread, List.flatMap_cons] at h
      split at h <;> cases h
    | cons d t =>
      obtain ⟨hd, ht⟩ := not_or.mp (mt List.mem_cons.mpr ht)
      rw [spread, spread, List.flatMap_cons, List.flatMap_cons, ← spread, ← spread] at h
      -- A capital begins with an underscore, and nothing else does.
      by_cases hcapital : c.isUpper = true <;> by_cases hcapital' : d.isUpper = true
      · rw [if_pos hcapital, if_pos hcapital'] at h
        obtain ⟨hpoint, hrest⟩ := lower_inj hcapital hcapital' (List.cons.inj h).2
        rw [hpoint, ih hs ht hrest]
      · rw [if_pos hcapital, if_neg hcapital'] at h
        exact absurd (List.cons.inj h).1 hd
      · rw [if_neg hcapital, if_pos hcapital'] at h
        exact absurd (List.cons.inj h).1.symm hc
      · rw [if_neg hcapital, if_neg hcapital'] at h
        obtain ⟨hpoint, hrest⟩ := List.cons.inj h
        rw [hpoint, ih hs ht hrest]

/-- No underscore is left in camel case. -/
theorem underscore_not_mem_camel {name : Text} (h : Snake name) :
    CodePoint.char '_' ∉ camel name := by
  have hwords : ∀ w ∈ wordsOf name, IsWord w := fun w => isWord_of_mem_wordsOf h
  cases hname : wordsOf name with
  | nil =>
    rw [camel_of_no_words hname]
    exact List.not_mem_nil
  | cons w ws =>
    rw [hname] at hwords
    obtain ⟨hw, hws⟩ := List.forall_mem_cons.mp hwords
    rw [camel_eq hw hname, List.mem_append, List.mem_flatMap]
    rintro (hmem | ⟨v, hv, hmem⟩)
    · exact (hw.low _ hmem).ne_underscore rfl
    · exact absurd (Text.plain_capitalize (hws v hv).plain _ hmem) (by decide)

/-- Two names come to the same in camel case exactly if their tidy forms are the same. -/
theorem camel_eq_iff {s t : Text} (hs : Snake s) (ht : Snake t) :
    camel s = camel t ↔ tidy s = tidy t := by
  rw [← spread_camel hs, ← spread_camel ht]
  exact ⟨congrArg spread,
    spread_inj (underscore_not_mem_camel hs) (underscore_not_mem_camel ht)⟩

/-! ## Names without case -/

/-- Telling no case goes code point by code point. -/
theorem uncased_append (s t : Text) : uncased (s ++ t) = uncased s ++ uncased t :=
  List.flatMap_append

/-- Small letters and digits have no case to lose. -/
theorem uncased_low {t : Text} (h : ∀ c ∈ t, IsLow c) : uncased t = t :=
  flatMap_low (fun c hc => by rw [hc.isUpper]; rfl) h

/-- The capital of a letter is that letter. -/
theorem uncased_upper {c : CodePoint} (h : IsLow c) : uncased c.upper = [c] := by
  by_cases hletter : c.isLower = true
  · obtain ⟨capital, hupper, hcapital, hlower⟩ := upper_letter hletter
    simp [uncased, hupper, hcapital, hlower]
  · unfold CodePoint.upper
    rw [if_pos (CodePoint.code_of_isAlphanumeric h.isAlphanumeric), if_neg hletter]
    exact uncased_low (List.forall_mem_singleton.mpr h)

/-- A word with a capital is that word. -/
theorem uncased_capitalize {w : Text} (h : IsWord w) : uncased (Text.capitalize w) = w := by
  cases w with
  | nil => rfl
  | cons c rest =>
    obtain ⟨hc, hrest⟩ := List.forall_mem_cons.mp h.low
    rw [Text.capitalize, uncased_append, uncased_upper hc, uncased_low hrest]
    rfl

/-- The words of a name are the name without its underscores. -/
theorem flatten_wordsOf {name : Text} (h : Snake name) : (wordsOf name).flatten = bare name := by
  rw [wordsOf, Text.pieces, List.flatten_filter_not_isEmpty, Text.flatten_splitWhere]
  refine List.filter_congr fun c hc => ?_
  rcases h c hc with hlow | rfl
  · rw [isJoint_of_isAlphanumeric hlow.isAlphanumeric, decide_eq_true hlow.ne_underscore]
    rfl
  · decide

/-- Without case, the camel case of a name tells the name but for its underscores. -/
theorem uncased_camel {name : Text} (h : Snake name) : uncased (camel name) = bare name := by
  rw [← flatten_wordsOf h]
  cases hname : wordsOf name with
  | nil =>
    rw [camel_of_no_words hname]
    rfl
  | cons w ws =>
    refine (flatMap_camel (g := id) (fun c hc => by rw [hc.isUpper]; rfl)
      (fun _ => uncased_capitalize) h hname).trans ?_
    rw [List.flatMap_id, List.flatten_cons]

/-- Two names come to the same in camel case without case exactly if they are the same but for their
underscores. -/
theorem uncased_camel_eq_iff {s t : Text} (hs : Snake s) (ht : Snake t) :
    uncased (camel s) = uncased (camel t) ↔ bare s = bare t := by
  rw [uncased_camel hs, uncased_camel ht]

/-! ## Tidy names -/

/-- Words that each begin with a letter, joined by single underscores. -/
def IsTidy (name : Text) : Prop :=
  ∃ words, words ≠ [] ∧ name = Text.join "_" words ∧
    ∀ w ∈ words, IsWord w ∧ ∃ c rest, w = c :: rest ∧ c.isLower = true

theorem IsTidy.ne_nil {name : Text} (h : IsTidy name) : name ≠ [] := by
  obtain ⟨words, hne, rfl, hwords⟩ := h
  cases words with
  | nil => exact absurd rfl hne
  | cons w ws =>
    obtain ⟨tail, htail⟩ := Text.join_cons "_" w ws
    rw [htail]
    exact List.append_ne_nil_of_left_ne_nil (hwords w (List.mem_cons_self ..)).1.nonempty _

/-- Words that are joined by underscores come apart again. -/
theorem wordsOf_join {words : List Text} (hne : words ≠ []) (h : ∀ w ∈ words, IsWord w) :
    wordsOf (Text.join "_" words) = words := by
  have hpieces : Text.splitWhere isJoint (Text.join "_" words) = words :=
    Text.splitWhere_join (by decide) hne fun w hw c hc =>
      isJoint_of_isAlphanumeric ((h w hw).plain c hc)
  rw [wordsOf, Text.pieces, hpieces, List.filter_eq_self]
  intro w hw
  simp [(h w hw).nonempty]

/-- Words that begin with letters and are joined by single underscores are a tidy form already. -/
theorem IsTidy.tidy_eq {name : Text} (h : IsTidy name) : tidy name = name := by
  obtain ⟨words, hne, rfl, hwords⟩ := h
  unfold tidy
  rw [wordsOf_join hne fun w hw => (hwords w hw).1]
  induction words with
  | nil => exact absurd rfl hne
  | cons w ws ih =>
    obtain ⟨_, hws⟩ := List.forall_mem_cons.mp hwords
    cases ws with
    | nil => simp [Text.join]
    | cons v vs =>
      obtain ⟨c, rest, rfl, hc⟩ := (hws v (List.mem_cons_self ..)).2
      have hrest := ih (List.cons_ne_nil _ _) hws
      dsimp only at hrest ⊢
      rw [List.flatMap_cons, joined, if_pos hc, List.cons_append, hrest]
      exact (List.append_assoc w [CodePoint.char '_'] _).symm

end Scaffold.Naming
