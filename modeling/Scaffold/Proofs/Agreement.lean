import Scaffold.Proofs.Program

/-!
# Programs that agree

Two programs agree if, started from related states, both give related results or both fail with
related errors, and leave related states either way (`Agree`). Of a program that follows another
this is asked only where the other ends in a way that counts (`Follows`): one run may be known to
return, and another has to be shown to return, too. Following passes from the parts of programs to
the whole, also if the second program leaves out steps that make no difference.

What is asked is put together in a `Bond`: which states and errors go together, which errors of the
first program count, and with which errors the second may break off on its own account. A bond stays
the same from the parts to the whole, and only the relation of results changes on the way.

The library compares runs in four ways, each by a bond of its own: a run on another network
(`Proofs.Run.Abreast`), without a backend (`Degradation`), without some tables (`Unreadable`), and
in another order (`Order`).
-/

namespace Scaffold.Program

variable {ε σ α α' β β' γ : Type} {R : σ → σ → Prop} {E : ε → ε → Prop}

/-- Two ways in which programs end are alike. -/
inductive Alike (R : σ → σ → Prop) (E : ε → ε → Prop) (Q : α → α' → Prop) :
    EStateM.Result ε σ α → EStateM.Result ε σ α' → Prop where
  | ok {a : α} {a' : α'} {s s' : σ} : Q a a' → R s s' → Alike R E Q (.ok a s) (.ok a' s')
  | error {e e' : ε} {s s' : σ} : E e e' → R s s' → Alike R E Q (.error e s) (.error e' s')

/-- Whatever follows from the relations may be asked instead. -/
theorem Alike.mono {R' : σ → σ → Prop} {E' : ε → ε → Prop} {Q Q' : α → α' → Prop}
    {r : EStateM.Result ε σ α} {r' : EStateM.Result ε σ α'} (h : Alike R E Q r r')
    (hR : ∀ {s s'}, R s s' → R' s s') (hE : ∀ {e e'}, E e e' → E' e e')
    (hQ : ∀ {a a'}, Q a a' → Q' a a') : Alike R' E' Q' r r' := by
  cases h with
  | ok ha hs => exact .ok (hQ ha) (hR hs)
  | error he hs => exact .error (hE he) (hR hs)

/-- The programs end alike whenever they start from related states. -/
def Agree (R : σ → σ → Prop) (E : ε → ε → Prop) (Q : α → α' → Prop) (act : EStateM ε σ α)
    (act' : EStateM ε σ α') : Prop :=
  ∀ s s', R s s' → Alike R E Q (act s) (act' s')

/-! ## One program following another -/

/-- What is asked of a program that follows another. -/
structure Bond (ε σ : Type) where
  /-- The states that go together. -/
  states : σ → σ → Prop
  /-- The errors that go together. -/
  errors : ε → ε → Prop
  /-- The errors of the first program that have to be followed. -/
  counts : ε → Prop
  /-- The errors with which the second program may break off on its own. -/
  excused : ε → Prop

/-- A program ends in a way that counts: with a result that is fit, or with an error to follow. -/
def Counts (counts : ε → Prop) (fit : α → Prop) : EStateM.Result ε σ α → Prop
  | .ok a _ => fit a
  | .error e _ => counts e

/-- The second program ends like the first, or breaks off on its own. -/
inductive Followed (B : Bond ε σ) (Q : α → α' → Prop) :
    EStateM.Result ε σ α → EStateM.Result ε σ α' → Prop where
  | ok {a : α} {a' : α'} {s s' : σ} : Q a a' → B.states s s' → Followed B Q (.ok a s) (.ok a' s')
  | error {e e' : ε} {s s' : σ} :
    B.errors e e' → B.states s s' → Followed B Q (.error e s) (.error e' s')
  | excused {r : EStateM.Result ε σ α} {e' : ε} {s' : σ} :
    B.excused e' → Followed B Q r (.error e' s')

/-- Ends that are alike follow one another. -/
theorem Alike.followed {B : Bond ε σ} {Q : α → α' → Prop} {r : EStateM.Result ε σ α}
    {r' : EStateM.Result ε σ α'} (h : Alike B.states B.errors Q r r') : Followed B Q r r' := by
  cases h with
  | ok ha hs => exact .ok ha hs
  | error he hs => exact .error he hs

/-- Where no error is excused, following is being alike. -/
theorem Followed.alike {B : Bond ε σ} {Q : α → α' → Prop} {r : EStateM.Result ε σ α}
    {r' : EStateM.Result ε σ α'} (h : Followed B Q r r') (hexcused : ∀ e, ¬ B.excused e) :
    Alike B.states B.errors Q r r' := by
  cases h with
  | ok ha hs => exact .ok ha hs
  | error he hs => exact .error he hs
  | excused he => exact absurd he (hexcused _)

theorem Followed.mono {B : Bond ε σ} {Q Q' : α → α' → Prop} {r : EStateM.Result ε σ α}
    {r' : EStateM.Result ε σ α'} (h : Followed B Q r r') (hQ : ∀ {a a'}, Q a a' → Q' a a') :
    Followed B Q' r r' := by
  cases h with
  | ok ha hs => exact .ok (hQ ha) hs
  | error he hs => exact .error he hs
  | excused he => exact .excused he

theorem Counts.mono {counts : ε → Prop} {fit fit' : α → Prop} {r : EStateM.Result ε σ α}
    (h : Counts counts fit r) (hfit : ∀ a, fit a → fit' a) : Counts counts fit' r := by
  cases r with
  | ok a s => exact hfit a h
  | error e s => exact h

/-- The second program follows whenever the first ends in a way that counts. -/
def Follows (B : Bond ε σ) (fit : α → Prop) (Q : α → α' → Prop) (act : EStateM ε σ α)
    (act' : EStateM ε σ α') : Prop :=
  ∀ s s', B.states s s' → Counts B.counts fit (act s) → Followed B Q (act s) (act' s')

section

variable {B : Bond ε σ}

/-- Of programs that agree, each follows the other. -/
theorem Agree.follows {Q : α → α' → Prop} {act : EStateM ε σ α} {act' : EStateM ε σ α'}
    (h : Agree B.states B.errors Q act act') (fit : α → Prop) : Follows B fit Q act act' :=
  fun s s' hs _ => (h s s' hs).followed

/-- Programs agree if every way to end counts and no error is excused. -/
theorem Follows.agree {fit : α → Prop} {Q : α → α' → Prop} {act : EStateM ε σ α}
    {act' : EStateM ε σ α'} (h : Follows B fit Q act act') (hfit : ∀ a, fit a)
    (hcounts : ∀ e, B.counts e) (hexcused : ∀ e, ¬ B.excused e) :
    Agree B.states B.errors Q act act' := by
  intro s s' hs
  refine (h s s' hs ?_).alike hexcused
  cases act s with
  | ok a s₁ => exact hfit a
  | error e s₁ => exact hcounts e

/-- Where the first program gives a result that is fit, the second gives a related one. -/
theorem Follows.ok {fit : α → Prop} {Q : α → α' → Prop} {act : EStateM ε σ α}
    {act' : EStateM ε σ α'} (h : Follows B fit Q act act') {s s' s₁ : σ} {a : α}
    (hs : B.states s s') (hact : act s = .ok a s₁) (ha : fit a) :
    (∃ a' s₁', act' s' = .ok a' s₁' ∧ B.states s₁ s₁' ∧ Q a a') ∨
      ∃ e' s₁', act' s' = .error e' s₁' ∧ B.excused e' := by
  have hfollowed := h s s' hs
  rw [hact] at hfollowed
  cases hact' : act' s' with
  | ok a' s₁' =>
    rw [hact'] at hfollowed
    cases hfollowed ha with
    | ok hQ hs₁ => exact Or.inl ⟨a', s₁', rfl, hs₁, hQ⟩
  | error e' s₁' =>
    rw [hact'] at hfollowed
    cases hfollowed ha with
    | excused he => exact Or.inr ⟨e', s₁', rfl, he⟩

theorem Follows.mono {fit fit' : α → Prop} {Q Q' : α → α' → Prop} {act : EStateM ε σ α}
    {act' : EStateM ε σ α'} (h : Follows B fit Q act act') (hfit : ∀ a, fit' a → fit a)
    (hQ : ∀ {a a'}, Q a a' → Q' a a') : Follows B fit' Q' act act' :=
  fun s s' hs hcounts => (h s s' hs (hcounts.mono hfit)).mono hQ

/-- Returning related results is following. -/
theorem Follows.pure {fit : α → Prop} {Q : α → α' → Prop} {a : α} {a' : α'} (h : Q a a') :
    Follows B fit Q (pure a) (pure a') :=
  fun _ _ hs _ => .ok h hs

/-- A first part that must be fit is followed if a rest that counts tells that it was. -/
theorem Follows.bind_fit {fit : α → Prop} {fit' : β → Prop} {Q : α → α' → Prop}
    {P : β → β' → Prop} {act : EStateM ε σ α} {act' : EStateM ε σ α'}
    {next : α → EStateM ε σ β} {next' : α' → EStateM ε σ β'} (h : Follows B fit Q act act')
    (hfit : ∀ {a s}, Counts B.counts fit' (next a s) → fit a)
    (hnext : ∀ a a', Q a a' → Follows B fit' P (next a) (next' a')) :
    Follows B fit' P (act >>= next) (act' >>= next') := by
  intro s s' hs hcounts
  -- Where the first part returns, what counts of the whole is what counts of the rest, and `hfit`
  -- carries it back to the first part.
  have hfirst := h s s' hs
  cases hact : act s with
  | ok a s₁ =>
    rw [bind_of_ok hact] at hcounts ⊢
    rw [hact] at hfirst
    cases hact' : act' s' with
    | ok a' s₁' =>
      rw [hact'] at hfirst
      rw [bind_of_ok hact']
      cases hfirst (hfit hcounts) with
      | ok ha hs₁ => exact hnext a a' ha s₁ s₁' hs₁ hcounts
    | error e' s₁' =>
      rw [hact'] at hfirst
      rw [bind_of_error hact']
      cases hfirst (hfit hcounts) with
      | excused he => exact .excused he
  | error e s₁ =>
    rw [bind_of_error hact] at hcounts ⊢
    rw [hact] at hfirst
    cases hact' : act' s' with
    | ok a' s₁' =>
      rw [hact'] at hfirst
      cases hfirst hcounts
    | error e' s₁' =>
      rw [hact'] at hfirst
      rw [bind_of_error hact']
      cases hfirst hcounts with
      | error he hs₁ => exact .error he hs₁
      | excused he => exact .excused he

/-- A first part of which any result will do. -/
theorem Follows.bind {fit : β → Prop} {Q : α → α' → Prop} {P : β → β' → Prop}
    {act : EStateM ε σ α} {act' : EStateM ε σ α'} {next : α → EStateM ε σ β}
    {next' : α' → EStateM ε σ β'} (h : Follows B (fun _ => True) Q act act')
    (hnext : ∀ a a', Q a a' → Follows B fit P (next a) (next' a')) :
    Follows B fit P (act >>= next) (act' >>= next') :=
  h.bind_fit (fun _ => trivial) hnext

/-- What counts of a program in two parts counts of the second, or is an error of the first. -/
theorem Counts.of_bind {counts : ε → Prop} {fit : β → Prop} {act : EStateM ε σ α}
    {next : α → EStateM ε σ β} {s : σ} (h : Counts counts fit ((act >>= next) s)) :
    (∃ e, counts e) ∨ ∃ a s₁, act s = .ok a s₁ ∧ Counts counts fit (next a s₁) := by
  cases hact : act s with
  | ok a s₁ =>
    rw [bind_of_ok hact] at h
    exact Or.inr ⟨a, s₁, rfl, h⟩
  | error e s₁ =>
    rw [bind_of_error hact] at h
    exact Or.inl ⟨e, h⟩

/-- What holds if an error counts, and if the rest counts, holds if the whole does. -/
theorem Counts.through {P : Prop} {counts : ε → Prop} {fit : β → Prop} {act : EStateM ε σ α}
    {next : α → EStateM ε σ β} {s : σ} (h : Counts counts fit ((act >>= next) s))
    (herror : ∀ e, counts e → P) (hnext : ∀ {a s₁}, Counts counts fit (next a s₁) → P) : P := by
  rcases h.of_bind with ⟨e, he⟩ | ⟨a, s₁, _, hrest⟩
  · exact herror e he
  · exact hnext hrest

/-- A program for a list is followed by one for those members that are kept, if the steps for the
others make no difference to the states where they give a result, and end in no way that counts
otherwise. -/
theorem Follows.mapM_filter {act act' : α → EStateM ε σ β} (keep : α → Bool) (kept : β → Bool)
    {fit : β → Prop} {f : β → γ} {as : List α} (hfit : ∀ e, B.counts e → ∀ b, fit b)
    (hskip : ∀ a ∈ as, keep a = false → ∀ {s s'}, B.states s s' →
      (∃ b s₁, act a s = .ok b s₁ ∧ kept b = false ∧ B.states s₁ s') ∨
        ∃ e s₁, act a s = .error e s₁ ∧ ¬ B.counts e)
    (hkeep : ∀ a ∈ as, keep a = true →
      Follows B fit (fun b b' => kept b = true ∧ f b = f b') (act a) (act' a)) :
    Follows B (fun bs => ∀ b ∈ bs, fit b) (fun bs bs' => bs'.map f = (bs.filter kept).map f)
      (as.mapM act) ((as.filter keep).mapM act') := by
  induction as with
  | nil => exact Follows.pure rfl
  | cons a as ih =>
    have hrest := ih (fun a' ha' => hskip a' (List.mem_cons_of_mem a ha'))
      (fun a' ha' => hkeep a' (List.mem_cons_of_mem a ha'))
    rw [List.mapM_cons]
    -- All results are fit only if those after the first are.
    have htail : ∀ {b : β} {bs : List β} {s : σ},
        Counts B.counts (fun bs => ∀ b ∈ bs, fit b) (.ok (b :: bs) s) → ∀ b' ∈ bs, fit b' :=
      fun hall => (List.forall_mem_cons.mp (show ∀ b' ∈ _ :: _, fit b' from hall)).2
    cases hthis : keep a with
    | false =>
      rw [List.filter_cons_of_neg (by simp [hthis])]
      intro s s' hs hcounts
      rcases hskip a (List.mem_cons_self ..) hthis hs with
        ⟨b, s₁, hact, hkept, hs₁⟩ | ⟨e, s₁, hact, hnot⟩
      · rw [bind_of_ok hact] at hcounts ⊢
        rw [← bind_pure ((as.filter keep).mapM act')]
        refine hrest.bind_fit htail (fun bs bs' hmap => Follows.pure ?_) s₁ s' hs₁ hcounts
        rw [List.filter_cons_of_neg (by simp [hkept]), hmap]
      · rw [bind_of_error hact] at hcounts
        exact absurd hcounts hnot
    | true =>
      rw [List.filter_cons_of_pos hthis, List.mapM_cons]
      refine (hkeep a (List.mem_cons_self ..) hthis).bind_fit ?_ ?_
      · intro b s hcounts
        exact hcounts.through (fun e he => hfit e he b) fun hall => hall b (List.mem_cons_self ..)
      · rintro b b' ⟨hkept, hbb'⟩
        refine hrest.bind_fit htail fun bs bs' hmap => Follows.pure ?_
        rw [List.filter_cons_of_pos hkept, List.map_cons, List.map_cons, hbb', hmap]

theorem filter_all (as : List α) : (as.filter fun _ => true) = as :=
  List.filter_eq_self.mpr fun _ _ => rfl

/-- The same where all members are kept. -/
theorem Follows.mapM {act act' : α → EStateM ε σ β} {fit : β → Prop} {f : β → γ} {as : List α}
    (hfit : ∀ e, B.counts e → ∀ b, fit b)
    (h : ∀ a ∈ as, Follows B fit (fun b b' => f b = f b') (act a) (act' a)) :
    Follows B (fun bs => ∀ b ∈ bs, fit b) (fun bs bs' => bs'.map f = bs.map f)
      (as.mapM act) (as.mapM act') := by
  have hall := Follows.mapM_filter (fun _ => true) (fun _ => true) hfit
    (fun _ _ hfalse => nomatch hfalse)
    fun a ha _ => (h a ha).mono (fun _ => id) fun hbb' => ⟨rfl, hbb'⟩
  simp only [filter_all] at hall
  exact hall

end

end Scaffold.Program
