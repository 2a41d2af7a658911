import Scaffold.Proofs.Program
import Scaffold.Text.Utf8

/-!
# Reading back what was encoded

Decoding undoes encoding (`decode_encode`), and the text of two byte sequences one after the other
is the one text after the other (`decode_append`). So appending the bytes of a text to a file that
can be decoded appends the text.

Neither holds of bytes in general: a sequence that stops in the middle of a code point cannot be
decoded, though it may be the beginning of one that can. `decode_append` therefore asks that both
sequences can be decoded.

The bytes of a code point are told by its size, so the proof that they are read back has four cases
(`step_one` to `step_four`). Surrogates have no bytes, and a text has an encoding exactly if it
holds none of them.
-/

namespace Scaffold.Utf8

open Program (except_bind_ok_iff)

/-! ## Sequences one after the other -/

/-- The bytes after a first one are read within their bounds, and what comes after them does not
matter. -/
theorem follow_append {value taken v further : Nat} {bounds : List (Nat × Nat)} {rest : Bytes}
    (h : follow value taken bounds rest = .point v further) (more : Bytes) :
    further = taken + bounds.length - 1 ∧ bounds.length ≤ rest.length ∧
      follow value taken bounds (rest ++ more) = .point v further := by
  induction bounds generalizing value taken rest with
  | nil =>
    unfold follow at h
    cases h
    refine ⟨by simp, Nat.zero_le _, ?_⟩
    unfold follow
    rfl
  | cons bound bounds ih =>
    cases rest with
    | nil =>
      unfold follow at h
      cases h
    | cons b rest =>
      unfold follow at h
      rw [List.cons_append]
      unfold follow
      split at h
      next hb =>
        -- One bound takes one byte, so the bounds that are left fit into the bytes that are left.
        obtain ⟨hfurther, hlength, hfollow⟩ := ih h
        rw [if_pos hb]
        simp only [List.length_cons]
        exact ⟨by omega, by omega, hfollow⟩
      next => cases h

/-- A code point that stands at the start of some bytes stands there whatever follows them. -/
theorem step_append {lead : UInt8} {rest : Bytes} {v further : Nat}
    (h : step lead rest = .point v further) (more : Bytes) :
    further ≤ rest.length ∧ step lead (rest ++ more) = .point v further := by
  unfold step at h ⊢
  cases hfollowers : followers? lead.toNat with
  | none =>
    rw [hfollowers] at h
    cases h
  | some bounds =>
    rw [hfollowers] at h
    obtain ⟨hfurther, hlength, hfollow⟩ := follow_append h more
    exact ⟨by omega, hfollow⟩

/-- A text begins with the code point that the first bytes make, and goes on after them. -/
theorem decodeFrom_cons_ok {position : Nat} {b : UInt8} {rest : Bytes} {t : Text}
    (h : decodeFrom position 0 (b :: rest) = .ok t) :
    ∃ value further text, step b rest = .point value further ∧
      decodeFrom (position + 1) further rest = .ok text ∧ t = .ofCode value :: text := by
  unfold decodeFrom at h
  cases hstep : step b rest with
  | broken defect count =>
    rw [hstep] at h
    cases h
  | point value further =>
    rw [hstep] at h
    obtain ⟨text, hrest, htext⟩ := except_bind_ok_iff.mp h
    cases htext
    exact ⟨value, further, text, rfl, hrest, rfl⟩

/-- The bytes of a code point are decoded together with what follows them. -/
theorem decodeFrom_cons {position value further : Nat} {b : UInt8} {rest : Bytes} {text : Text}
    (hstep : step b rest = .point value further)
    (hrest : decodeFrom (position + 1) further rest = .ok text) :
    decodeFrom position 0 (b :: rest) = .ok (.ofCode value :: text) := by
  unfold decodeFrom
  rw [hstep]
  exact except_bind_ok_iff.mpr ⟨text, hrest, rfl⟩

/-- Where bytes stand matters to errors only. -/
theorem decodeFrom_position {bytes : Bytes} : ∀ {position skip : Nat} {t : Text} (other : Nat),
    decodeFrom position skip bytes = .ok t → decodeFrom other skip bytes = .ok t := by
  induction bytes with
  | nil =>
    intro position skip t other h
    cases skip <;> exact h
  | cons b rest ih =>
    intro position skip t other h
    cases skip with
    | succ skip =>
      unfold decodeFrom at h ⊢
      exact ih _ h
    | zero =>
      obtain ⟨value, further, text, hstep, hrest, rfl⟩ := decodeFrom_cons_ok h
      exact decodeFrom_cons hstep (ih (other + 1) hrest)

/-- Decoding goes on with what follows, wherever it has come to. -/
theorem decodeFrom_append {bytes more : Bytes} {tail : Text} (hmore : decode more = .ok tail) :
    ∀ {position skip : Nat} {t : Text}, skip ≤ bytes.length →
      decodeFrom position skip bytes = .ok t →
      decodeFrom position skip (bytes ++ more) = .ok (t ++ tail) := by
  induction bytes with
  | nil =>
    intro position skip t hskip h
    -- No code point of the first sequence reaches into the second.
    obtain rfl : skip = 0 := Nat.le_zero.mp hskip
    cases h
    exact decodeFrom_position position hmore
  | cons b rest ih =>
    intro position skip t hskip h
    rw [List.length_cons] at hskip
    rw [List.cons_append]
    cases skip with
    | succ skip =>
      unfold decodeFrom at h ⊢
      exact ih (by omega) h
    | zero =>
      obtain ⟨value, further, text, hstep, hrest, rfl⟩ := decodeFrom_cons_ok h
      obtain ⟨hfurther, hstep'⟩ := step_append hstep more
      exact decodeFrom_cons hstep' (ih hfurther hrest)

/-- The text of two byte sequences is that of the one, then that of the other. -/
theorem decode_append {bytes more : Bytes} {t tail : Text} (h : decode bytes = .ok t)
    (hmore : decode more = .ok tail) : decode (bytes ++ more) = .ok (t ++ tail) :=
  decodeFrom_append hmore (Nat.zero_le _) h

/-! ## Encoded texts -/

/-- A number below 256 is a byte. -/
theorem toNat_toUInt8 {n : Nat} (h : n < 256) : n.toUInt8.toNat = n := by
  rw [UInt8.toNat_ofNat']
  exact Nat.mod_eq_of_lt h

/-- A lead byte of two has one byte after it. -/
theorem followers?_two {lead : Nat} (h : 0xC2 ≤ lead) (h' : lead < 0xE0) :
    followers? lead = some [(0x80, 0xBF)] := by
  unfold followers?
  rw [if_neg (by omega), if_neg (by omega), if_pos h']

/-- The first byte of three: two of them confine the second byte. -/
theorem followers?_three {lead : Nat} (h : 0xE0 ≤ lead) (h' : lead < 0xF0) :
    followers? lead =
      some [(if lead = 0xE0 then 0xA0 else 0x80, if lead = 0xED then 0x9F else 0xBF),
        (0x80, 0xBF)] := by
  unfold followers?
  rw [if_neg (by omega), if_neg (by omega), if_neg (by omega)]
  by_cases hE0 : lead = 0xE0
  · rw [if_pos hE0, if_pos hE0, if_neg (by omega)]
  · by_cases hED : lead = 0xED
    · rw [if_neg hE0, if_pos hED, if_neg hE0, if_pos hED]
    · rw [if_neg hE0, if_neg hED, if_pos h', if_neg hE0, if_neg hED]

/-- The first byte of four: two of them confine the second byte. -/
theorem followers?_four {lead : Nat} (h : 0xF0 ≤ lead) (h' : lead ≤ 0xF4) :
    followers? lead =
      some [(if lead = 0xF0 then 0x90 else 0x80, if lead = 0xF4 then 0x8F else 0xBF),
        (0x80, 0xBF), (0x80, 0xBF)] := by
  unfold followers?
  rw [if_neg (by omega), if_neg (by omega), if_neg (by omega), if_neg (by omega),
    if_neg (by omega), if_neg (by omega)]
  by_cases hF0 : lead = 0xF0
  · rw [if_pos hF0, if_pos hF0, if_neg (by omega)]
  · by_cases hF4 : lead = 0xF4
    · rw [if_neg hF0, if_neg (by omega), if_pos hF4, if_neg hF0, if_pos hF4]
    · rw [if_neg hF0, if_pos (by omega), if_neg hF0, if_neg hF4]

/-- A byte below `0x80` is a code point. -/
theorem step_one {n : Nat} (h : n < 0x80) : step n.toUInt8 [] = .point n 0 := by
  have hfollowers : followers? n = some [] := if_pos h
  have hbits : leadBits n = n := if_pos h
  unfold step
  rw [toNat_toUInt8 (by omega), hfollowers, hbits]
  rfl

/-- Two bytes make a code point below `0x800`. -/
theorem step_two {n : Nat} (h : 0x80 ≤ n) (h' : n < 0x800) :
    step (0xC0 + n / 0x40).toUInt8 [(0x80 + n % 0x40).toUInt8] = .point n 1 := by
  have hbits : leadBits (0xC0 + n / 0x40) = n / 0x40 := by
    unfold leadBits
    rw [if_neg (by omega), if_pos (by omega)]
    omega
  unfold step
  rw [toNat_toUInt8 (by omega), followers?_two (by omega) (by omega), hbits]
  simp only [follow, toNat_toUInt8 (show 0x80 + n % 0x40 < 256 by omega)]
  rw [if_pos (by omega)]
  rw [Step.point.injEq]
  exact ⟨by omega, rfl⟩

/-- Three bytes make one below `0x10000` that is no surrogate. -/
theorem step_three {n : Nat} (h : 0x800 ≤ n) (h' : n < 0x10000)
    (hsurrogate : ¬ (0xD800 ≤ n ∧ n < 0xE000)) :
    step (0xE0 + n / 0x1000).toUInt8
      [(0x80 + n / 0x40 % 0x40).toUInt8, (0x80 + n % 0x40).toUInt8] = .point n 2 := by
  have hbits : leadBits (0xE0 + n / 0x1000) = n / 0x1000 := by
    unfold leadBits
    rw [if_neg (by omega), if_neg (by omega), if_pos (by omega)]
    omega
  unfold step
  rw [toNat_toUInt8 (by omega), followers?_three (by omega) (by omega), hbits]
  simp only [follow, toNat_toUInt8 (show 0x80 + n % 0x40 < 256 by omega),
    toNat_toUInt8 (show 0x80 + n / 0x40 % 0x40 < 256 by omega)]
  -- The second byte is confined after 0xE0, by `h`, and after 0xED, where surrogates would be.
  rw [if_pos (by split <;> split <;> omega), if_pos (by omega)]
  rw [Step.point.injEq]
  exact ⟨by omega, rfl⟩

/-- Four bytes make one of the rest. -/
theorem step_four {n : Nat} (h : 0x10000 ≤ n) (h' : n < 0x110000) :
    step (0xF0 + n / 0x40000).toUInt8
      [(0x80 + n / 0x1000 % 0x40).toUInt8, (0x80 + n / 0x40 % 0x40).toUInt8,
        (0x80 + n % 0x40).toUInt8] = .point n 3 := by
  have hbits : leadBits (0xF0 + n / 0x40000) = n / 0x40000 := by
    unfold leadBits
    rw [if_neg (by omega), if_neg (by omega), if_neg (by omega)]
    omega
  unfold step
  rw [toNat_toUInt8 (by omega), followers?_four (by omega) (by omega), hbits]
  simp only [follow, toNat_toUInt8 (show 0x80 + n % 0x40 < 256 by omega),
    toNat_toUInt8 (show 0x80 + n / 0x40 % 0x40 < 256 by omega),
    toNat_toUInt8 (show 0x80 + n / 0x1000 % 0x40 < 256 by omega)]
  -- The second byte is confined after 0xF0, by `h`, and after 0xF4, by `h'`.
  rw [if_pos (by split <;> split <;> omega), if_pos (by omega), if_pos (by omega)]
  rw [Step.point.injEq]
  exact ⟨by omega, rfl⟩

/-- The bytes of a number that is no surrogate are a first byte and as many more as it asks for. -/
theorem step_bytesOf {n : Nat} (h : n < 0x110000) (hsurrogate : ¬ (0xD800 ≤ n ∧ n < 0xE000)) :
    ∃ lead rest, bytesOf n = lead :: rest ∧ step lead rest = .point n rest.length := by
  unfold bytesOf
  by_cases h1 : n < 0x80
  · rw [if_pos h1]
    exact ⟨_, _, rfl, step_one h1⟩
  rw [if_neg h1]
  by_cases h2 : n < 0x800
  · rw [if_pos h2]
    exact ⟨_, _, rfl, step_two (by omega) h2⟩
  rw [if_neg h2]
  by_cases h3 : n < 0x10000
  · rw [if_pos h3]
    exact ⟨_, _, rfl, step_three (by omega) h3 hsurrogate⟩
  · rw [if_neg h3]
    exact ⟨_, _, rfl, step_four (by omega) h⟩

/-- Bytes that belong to a code point already read give nothing more. -/
theorem decodeFrom_skip (position : Nat) (rest : Bytes) :
    decodeFrom position rest.length rest = .ok [] := by
  induction rest generalizing position with
  | nil => rfl
  | cons b rest ih =>
    rw [List.length_cons]
    unfold decodeFrom
    exact ih _

/-- No code point is past `0x10FFFF`. -/
theorem code_lt (c : CodePoint) : c.code < 0x110000 := by
  cases c with
  | surrogate index => exact Nat.lt_of_lt_of_le (Nat.add_lt_add_left index.isLt _) (by decide)
  | char c =>
    rcases c.valid with h | h
    · exact Nat.lt_trans h (by decide)
    · exact h.2

/-- The bytes of a character are decoded to it. -/
theorem decode_char (c : Char) : decode (bytesOf c.toNat) = .ok [.char c] := by
  have hlt : c.toNat < 0x110000 := code_lt (.char c)
  have hsurrogate : ¬ (0xD800 ≤ c.toNat ∧ c.toNat < 0xE000) := by
    intro hparts
    obtain ⟨hlow, hhigh⟩ := hparts
    rcases c.valid with h | h
    · exact absurd h (Nat.not_lt.mpr hlow)
    · exact absurd h.1 (Nat.not_lt.mpr (Nat.le_of_lt_succ hhigh))
  obtain ⟨lead, rest, hbytes, hstep⟩ := step_bytesOf hlt hsurrogate
  have hpoint : CodePoint.ofCode c.toNat = .char c := CodePoint.ofCode_code (.char c)
  rw [hbytes]
  unfold decode decodeFrom
  simp only [hstep, decodeFrom_skip, hpoint]
  rfl

/-- A text has no run without an encoding exactly if it has no surrogates. -/
theorem unencodable?_eq_none_iff {t : Text} : ∀ {position : Nat},
    unencodable? position t = none ↔ ∀ c ∈ t, isSurrogate c = false := by
  induction t with
  | nil => exact ⟨fun _ => nofun, fun _ => rfl⟩
  | cons c rest ih =>
    intro position
    rw [List.forall_mem_cons, unencodable?]
    split
    next hc =>
      rw [hc]
      exact ⟨nofun, nofun⟩
    next hc =>
      rw [ih]
      exact ⟨fun h => ⟨Bool.not_eq_true _ ▸ hc, h⟩, And.right⟩

/-- A text without surrogates has an encoding, code point by code point. -/
theorem encode_of_chars {t : Text} (h : ∀ c ∈ t, isSurrogate c = false) :
    encode t = .ok (t.flatMap fun c => bytesOf c.code) := by
  unfold encode
  rw [unencodable?_eq_none_iff.mpr h]

/-- Decoding undoes encoding. -/
theorem decode_encode {t : Text} {bytes : Bytes} (h : encode t = .ok bytes) :
    decode bytes = .ok t := by
  unfold encode at h
  split at h
  next => cases h
  next hnone =>
    cases h
    have hchars := unencodable?_eq_none_iff.mp hnone
    -- The position at which an error would have been reported stands in the way of the induction.
    clear hnone
    induction t with
    | nil => rfl
    | cons c rest ih =>
      rw [List.flatMap_cons]
      have hrest := ih fun d hd => hchars d (List.mem_cons_of_mem _ hd)
      cases c with
      | char c => exact decode_append (decode_char c) hrest
      | surrogate index => cases hchars _ (List.mem_cons_self ..)

/-! ## Surrogates -/

/-- A text has an encoding exactly if it has no surrogates. -/
theorem encode_ok_iff {t : Text} :
    (∃ bytes, encode t = .ok bytes) ↔ ∀ c ∈ t, isSurrogate c = false := by
  constructor
  · intro hparts
    obtain ⟨bytes, h⟩ := hparts
    unfold encode at h
    split at h
    next => cases h
    next hnone => exact unencodable?_eq_none_iff.mp hnone
  · intro h
    exact ⟨_, encode_of_chars h⟩

/-- The encoding of a text is that of its parts. -/
theorem encode_append {s t : Text} {x y : Bytes} (hs : encode s = .ok x) (ht : encode t = .ok y) :
    encode (s ++ t) = .ok (x ++ y) := by
  have hschars := encode_ok_iff.mp ⟨x, hs⟩
  have htchars := encode_ok_iff.mp ⟨y, ht⟩
  rw [encode_of_chars hschars] at hs
  rw [encode_of_chars htchars] at ht
  cases hs
  cases ht
  rw [encode_of_chars, List.flatMap_append]
  intro c hc
  exact (List.mem_append.mp hc).elim (hschars c) (htchars c)

/-- Every byte after a first one is within its bounds and adds six bits. -/
theorem follow_cons_iff {value taken v further : Nat} {bound : Nat × Nat}
    {bounds : List (Nat × Nat)} {rest : Bytes} :
    follow value taken (bound :: bounds) rest = .point v further ↔
      ∃ b rest', rest = b :: rest' ∧ (bound.1 ≤ b.toNat ∧ b.toNat ≤ bound.2) ∧
        follow (value * 0x40 + b.toNat % 0x40) (taken + 1) bounds rest' = .point v further := by
  cases rest with
  | nil =>
    constructor
    · intro h
      cases h
    · rintro ⟨_, _, ⟨⟩, _⟩
  | cons b rest =>
    rw [follow]
    constructor
    · intro h
      split at h
      next hb => exact ⟨b, rest, rfl, hb, h⟩
      next => cases h
    · rintro ⟨_, _, ⟨⟩, hb, h⟩
      rw [if_pos hb, h]

/-- No bytes stand for a surrogate. -/
theorem not_surrogate_of_step {lead : UInt8} {rest : Bytes} {v further : Nat}
    (h : step lead rest = .point v further) : ¬ (0xD800 ≤ v ∧ v < 0xE000) := by
  unfold step at h
  generalize lead.toNat = n at h
  by_cases h1 : n < 0x80
  · have hone : followers? n = some [] := if_pos h1
    have hbits : leadBits n = n := if_pos h1
    rw [hone, hbits] at h
    cases h
    omega
  by_cases h2 : n < 0xC2
  · have hnone : followers? n = none := by
      unfold followers?
      rw [if_neg h1, if_pos h2]
    rw [hnone] at h
    cases h
  by_cases h3 : n < 0xE0
  · have hbits : leadBits n = n - 0xC0 := by
      unfold leadBits
      rw [if_neg h1, if_pos h3]
    rw [followers?_two (by omega) h3, hbits] at h
    obtain ⟨b, _, rfl, _, h⟩ := follow_cons_iff.mp h
    cases h
    omega
  by_cases h4 : n < 0xF0
  · have hbits : leadBits n = n - 0xE0 := by
      unfold leadBits
      rw [if_neg h1, if_neg h3, if_pos h4]
    rw [followers?_three (by omega) h4, hbits] at h
    obtain ⟨b, _, rfl, hb, h⟩ := follow_cons_iff.mp h
    obtain ⟨c, _, rfl, _, h⟩ := follow_cons_iff.mp h
    cases h
    -- The byte after 0xED keeps below the surrogates.
    dsimp only at hb
    split at hb <;> split at hb <;> omega
  by_cases h5 : n ≤ 0xF4
  · have hbits : leadBits n = n - 0xF0 := by
      unfold leadBits
      rw [if_neg h1, if_neg h3, if_neg h4]
    rw [followers?_four (by omega) h5, hbits] at h
    obtain ⟨b, _, rfl, hb, h⟩ := follow_cons_iff.mp h
    obtain ⟨c, _, rfl, _, h⟩ := follow_cons_iff.mp h
    obtain ⟨d, _, rfl, _, h⟩ := follow_cons_iff.mp h
    cases h
    -- The byte after 0xF0 gets above them.
    dsimp only at hb
    split at hb <;> split at hb <;> omega
  · have hnone : followers? n = none := by
      unfold followers?
      simp only [h1, h2, h3, h4, if_false]
      rw [if_neg (by omega), if_neg (by omega), if_neg (by omega), if_neg (by omega),
        if_neg (by omega)]
    rw [hnone] at h
    cases h

/-- A decoded text has no surrogates. -/
theorem chars_of_decode {bytes : Bytes} {t : Text} (h : decode bytes = .ok t) :
    ∀ c ∈ t, isSurrogate c = false := by
  -- The induction needs the statement for every position and for bytes that belong to a code point
  -- before them.
  have hgeneral : ∀ (bytes : Bytes) (position skip : Nat) (t : Text),
      decodeFrom position skip bytes = .ok t → ∀ c ∈ t, isSurrogate c = false := by
    intro bytes
    induction bytes with
    | nil =>
      intro position skip t h
      cases skip <;> cases h <;> exact nofun
    | cons b rest ih =>
      intro position skip t h
      cases skip with
      | succ skip => exact ih _ _ _ h
      | zero =>
        obtain ⟨value, further, text, hstep, hrest, rfl⟩ := decodeFrom_cons_ok h
        refine List.forall_mem_cons.mpr ⟨?_, ih _ _ _ hrest⟩
        rw [CodePoint.ofCode, dif_neg (not_surrogate_of_step hstep)]
        rfl
  exact hgeneral bytes 0 0 t h

end Scaffold.Utf8
