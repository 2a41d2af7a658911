import Scaffold.Proofs.Text.Search
import Scaffold.Stub.Template

/-!
# The parts of a template

A template is made of code points and of tokens, names between double braces. Where its braces are
in order (`InOrder`), single ones or double ones around a name, it splits into parts (`Splits`) in
which no brace meets another but in a token, and only such templates do (`inOrder_iff`). Reading a
template from the left for the tokens there may be finds the parts (`readable_sound`).
-/

namespace Scaffold.Stub

/-! ## Tokens -/

def openBrace : CodePoint := .char '\x7b'

def closeBrace : CodePoint := .char '\x7d'

theorem openBrace_ne_closeBrace : openBrace ≠ closeBrace := by decide

/-- The token of a name: the name between double braces. -/
def tokenOf (name : Text) : Text := openBrace :: openBrace :: (name ++ [closeBrace, closeBrace])

/-- What stands in a token. -/
def nameOf (key : Text) : Text := (key.drop 2).dropLast.dropLast

@[simp] theorem nameOf_tokenOf (name : Text) : nameOf (tokenOf name) = name := by
  simp [nameOf, tokenOf]

/-- What may stand between the braces of a token: anything but braces. -/
def IsName (name : Text) : Prop := openBrace ∉ name ∧ closeBrace ∉ name

instance (name : Text) : Decidable (IsName name) := inferInstanceAs (Decidable (_ ∧ _))

/-- A text that begins with a token begins with no other. -/
theorem tokenOf_prefix_iff {k name : Text} (hk : IsName k) (hname : IsName name) (rest : Text) :
    tokenOf k <+: tokenOf name ++ rest ↔ k = name := by
  constructor
  · intro hparts
    obtain ⟨rest', h⟩ := hparts
    have heq : k ++ closeBrace :: closeBrace :: rest' =
        name ++ closeBrace :: closeBrace :: rest := by
      simpa [tokenOf] using h
    -- Both names end at the first closing brace.
    have hcut : Text.cutAt [closeBrace] (k ++ closeBrace :: closeBrace :: rest') =
        some (name, closeBrace :: rest) := Text.cutAt_point_iff.mpr ⟨hname.2, heq⟩
    rw [Text.cutAt_point_iff.mpr ⟨hk.2, rfl⟩] at hcut
    exact congrArg Prod.fst (Option.some.inj hcut)
  · rintro rfl
    exact List.prefix_append ..

/-- A token begins with two braces, and its name stands before two more. -/
theorem tokenOf_append (name rest : Text) :
    tokenOf name ++ rest =
      openBrace :: openBrace :: (name ++ closeBrace :: closeBrace :: rest) := by
  simp [tokenOf]

/-- Different names have different tokens. -/
theorem tokenOf_injective {k name : Text} (h : tokenOf k = tokenOf name) : k = name := by
  rw [← nameOf_tokenOf k, h, nameOf_tokenOf]

/-- A token ends with a brace. -/
theorem getLast?_tokenOf (name : Text) : (tokenOf name).getLast? = some closeBrace := by
  have hconcat :
      tokenOf name = openBrace :: openBrace :: (name ++ [closeBrace]) ++ [closeBrace] := by
    simp [tokenOf]
  rw [hconcat, List.getLast?_concat]

/-- Where a token and what follows it do not end with an opening brace, neither does the latter. -/
theorem getLast?_tokenOf_append {name before : Text}
    (h : (tokenOf name ++ before).getLast? ≠ some openBrace) :
    before.getLast? ≠ some openBrace := by
  rw [List.getLast?_append] at h
  intro hlast
  rw [hlast] at h
  exact h rfl

/-! ## Templates in order -/

/-- The braces of a template are in order: wherever the first of two braces or more stands, a name
and two closing braces follow these two. `P` says which names there may be. -/
def InOrder (P : Text → Prop) (template : Text) : Prop :=
  ∀ before after, template = before ++ openBrace :: openBrace :: after →
    before.getLast? ≠ some openBrace →
    ∃ name rest, after = name ++ closeBrace :: closeBrace :: rest ∧ IsName name ∧ P name

/-- A part of a template. -/
inductive Part where
  | point (c : CodePoint)
  | token (name : Text)

/-- The template splits into parts. A brace that is a part of its own is followed by none. -/
inductive Splits (P : Text → Prop) : Text → List Part → Prop
  | nil : Splits P [] []
  | point {c : CodePoint} {t : Text} {parts : List Part}
    (h : c = openBrace → t.head? ≠ some openBrace) (hrest : Splits P t parts) :
    Splits P (c :: t) (.point c :: parts)
  | token {name t : Text} {parts : List Part} (hname : IsName name) (h : P name)
    (hrest : Splits P t parts) : Splits P (tokenOf name ++ t) (.token name :: parts)

section

variable {P : Text → Prop}

/-- Braces that are in order stay so after a code point that begins no token. -/
theorem InOrder.of_cons {c : CodePoint} {t : Text} (h : InOrder P (c :: t))
    (hc : c = openBrace → t.head? ≠ some openBrace) : InOrder P t := by
  intro before after ht hlast
  refine h (c :: before) after (congrArg (c :: ·) ht) ?_
  cases before with
  | nil =>
    rintro ⟨⟩
    exact hc rfl (ht ▸ rfl)
  | cons d before => rwa [List.getLast?_cons_cons]

/-- Braces that are in order stay so after a token. -/
theorem InOrder.of_token {name t : Text} (h : InOrder P (tokenOf name ++ t)) : InOrder P t := by
  intro before after ht hlast
  refine h (tokenOf name ++ before) after (by rw [ht, List.append_assoc]) ?_
  rw [List.getLast?_append]
  cases hbefore : before.getLast? with
  | none =>
    rw [getLast?_tokenOf]
    exact fun h => openBrace_ne_closeBrace (Option.some.inj h).symm
  | some d => rwa [hbefore] at hlast

/-- A template in order splits. -/
theorem InOrder.splits {t : Text} (h : InOrder P t) : ∃ parts, Splits P t parts := by
  cases t with
  | nil => exact ⟨[], .nil⟩
  | cons c t =>
    by_cases hc : c = openBrace → t.head? ≠ some openBrace
    · obtain ⟨parts, hparts⟩ := (h.of_cons hc).splits
      exact ⟨_, .point hc hparts⟩
    · rw [Classical.not_imp, Classical.not_not] at hc
      obtain ⟨rfl, hhead⟩ := hc
      cases t with
      | nil => cases hhead
      | cons d t =>
        cases hhead
        obtain ⟨name, rest, rfl, hname, hP⟩ := h [] t rfl nofun
        rw [← tokenOf_append] at h ⊢
        obtain ⟨parts, hparts⟩ := h.of_token.splits
        exact ⟨_, .token hname hP hparts⟩
  termination_by t.length

/-- An opening brace in a token that follows no other is its first. -/
theorem nil_of_tokenOf_eq {name before after : Text} (hname : IsName name)
    (hlast : before.getLast? ≠ some openBrace)
    (h : tokenOf name = before ++ openBrace :: after) : before = [] := by
  cases before with
  | nil => rfl
  | cons b before =>
    cases before with
    | nil =>
      obtain ⟨rfl, _⟩ := List.cons.inj h
      exact absurd rfl hlast
    | cons b' before =>
      have hmem : openBrace ∈ name ++ [closeBrace, closeBrace] := by
        rw [(List.cons.inj (List.cons.inj h).2).2]
        exact List.mem_append_right _ (List.mem_cons_self ..)
      exact absurd hmem (by simp [hname.1, openBrace_ne_closeBrace])

/-- A template that splits is in order. -/
theorem Splits.inOrder {t : Text} {parts : List Part} (h : Splits P t parts) : InOrder P t := by
  induction h with
  | nil =>
    intro before after ht
    simp at ht
  | point h _ ih =>
    intro before after ht hlast
    cases before with
    | nil =>
      obtain ⟨rfl, rfl⟩ := List.cons.inj ht
      exact absurd rfl (h rfl)
    | cons b before =>
      refine ih before after (List.cons.inj ht).2 ?_
      cases before with
      | nil => nofun
      | cons d before => rwa [List.getLast?_cons_cons] at hlast
  | @token name t parts hname hP _ ih =>
    intro before after ht hlast
    rcases List.append_eq_append_iff.mp ht with ⟨past, rfl, hpast⟩ | ⟨left, hleft, hafter⟩
    · exact ih past after hpast (getLast?_tokenOf_append hlast)
    · cases left with
      | nil => exact ih [] after hafter.symm nofun
      | cons c left =>
        -- The double braces begin in the token, hence with it.
        obtain ⟨rfl, htail⟩ := List.cons.inj hafter
        obtain rfl := nil_of_tokenOf_eq hname hlast hleft
        obtain rfl : openBrace :: (name ++ [closeBrace, closeBrace]) = left :=
          (List.cons.inj hleft).2
        obtain rfl : after = name ++ [closeBrace, closeBrace] ++ t :=
          (List.cons.inj htail).2
        exact ⟨name, t, by simp, hname, hP⟩

/-- The braces of a template are in order exactly if it splits. -/
theorem inOrder_iff {t : Text} : InOrder P t ↔ ∃ parts, Splits P t parts :=
  ⟨InOrder.splits, fun ⟨_, h⟩ => h.inOrder⟩

/-- More names may stand in the tokens. -/
theorem InOrder.mono {Q : Text → Prop} {t : Text} (h : InOrder P t)
    (hPQ : ∀ name, P name → Q name) : InOrder Q t := by
  intro before after ht hlast
  obtain ⟨name, rest, hafter, hname, hP⟩ := h before after ht hlast
  exact ⟨name, rest, hafter, hname, hPQ name hP⟩

/-- A text without tokens has no double braces. -/
theorem Splits.no_braces {t : Text} {parts : List Part} (h : Splits P t parts)
    (hP : ∀ name, ¬ P name) : ¬ [openBrace, openBrace] <:+: t := by
  induction h with
  | nil => simp
  | @point c t parts h _ ih =>
    rw [List.infix_cons_iff, not_or]
    refine ⟨fun hprefix => ?_, ih⟩
    obtain ⟨rest, hrest⟩ := hprefix
    obtain ⟨rfl, rfl⟩ := List.cons.inj hrest
    exact h rfl rfl
  | token _ hname => exact absurd hname (hP _)

end

/-! ## Reading a template -/

/-- Every key is a token. -/
def AreTokens (keys : List Text) : Prop :=
  ∀ key ∈ keys, IsName (nameOf key) ∧ key = tokenOf (nameOf key)

instance (keys : List Text) : Decidable (AreTokens keys) :=
  inferInstanceAs (Decidable (∀ key ∈ keys, _ ∧ _))

/-- A key is the token of a name. -/
theorem AreTokens.name {keys : List Text} (h : AreTokens keys) {key : Text} (hmem : key ∈ keys) :
    ∃ name, IsName name ∧ key = tokenOf name :=
  ⟨nameOf key, h key hmem⟩

/-- Whether double braces in a text only ever begin one of the given tokens; `skip` code points at
its start belong to a token. -/
def readableFrom (tokens : List Text) : (skip : Nat) → Text → Bool
  | _, [] => true
  | skip + 1, _ :: t => readableFrom tokens skip t
  | 0, c :: t =>
    if c = openBrace ∧ t.head? = some openBrace then
      match tokens.find? fun token => Text.startsWith (c :: t) token with
      | some token => readableFrom tokens (token.length - 1) t
      | none => false
    else readableFrom tokens 0 t

/-- Code points to be passed over may be dropped. -/
theorem readableFrom_drop (tokens : List Text) (skip : Nat) (t : Text) :
    readableFrom tokens skip t = readableFrom tokens 0 (t.drop skip) := by
  induction t generalizing skip with
  | nil => simp [readableFrom]
  | cons c t ih =>
    cases skip with
    | zero => rfl
    | succ skip => exact ih skip

/-- A text that is read to its end is in order and holds the given tokens only. -/
theorem readable_sound {tokens : List Text} (htokens : AreTokens tokens) {t : Text}
    (h : readableFrom tokens 0 t = true) : InOrder (fun name => tokenOf name ∈ tokens) t := by
  suffices hsplits : ∃ parts, Splits (fun name => tokenOf name ∈ tokens) t parts from
    inOrder_iff.mpr hsplits
  induction hn : t.length using Nat.strongRecOn generalizing t with
  | _ n ih =>
    subst hn
    cases t with
    | nil => exact ⟨[], .nil⟩
    | cons c t =>
      rw [readableFrom] at h
      by_cases hbraces : c = openBrace ∧ t.head? = some openBrace
      · rw [if_pos hbraces] at h
        split at h
        next token hfind =>
          have hmem := List.mem_of_find?_eq_some hfind
          obtain ⟨name, hname, rfl⟩ := htokens.name hmem
          obtain ⟨rest, hrest⟩ := Text.startsWith_iff.mp (List.find?_some hfind)
          -- Where a token is found, the reading goes on behind it; the first of its braces is off
          -- already.
          have hdrop : t.drop ((tokenOf name).length - 1) = rest := by
            obtain rfl := (List.cons.inj hrest).2
            simp [tokenOf]
          have hlength : rest.length ≤ t.length := hdrop ▸ (List.drop_sublist ..).length_le
          rw [readableFrom_drop, hdrop] at h
          obtain ⟨parts, hparts⟩ := ih _ (Nat.lt_succ_of_le hlength) h rfl
          rw [← hrest]
          exact ⟨_, .token hname hmem hparts⟩
        next => cases h
      · rw [if_neg hbraces] at h
        obtain ⟨parts, hparts⟩ := ih _ (Nat.lt_succ_self _) h rfl
        exact ⟨_, .point (fun hc hhead => hbraces ⟨hc, hhead⟩) hparts⟩

end Scaffold.Stub
