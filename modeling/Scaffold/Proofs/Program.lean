/-!
# Programs that leave a state

File operations and steps of a run are programs of one kind: they give a result or a failure, and
leave a state either way. Where a program is known to give a result, `bind_ok_iff` and
`mapM_cons_ok_iff` take it apart. Where only the state it leaves matters, `Leaves` relates that
state to the one before, and passes from the parts of a program to the whole if the relation is
reflexive and transitive. What can go wrong is told by `FailsOnly`, part by part as well.

Loops over lists have one lemma for each way in which a proof may go along one:

* `mapM_forward` keeps an invariant from the first member on and collects what it shows of results;
* `mapM_along` lets the invariant depend on the members that have been seen;
* `mapM_members` and `mapM_map` tell something of each member or result;
* `mapM_collect` adds up what the steps bring about;
* `mapM_backward` judges each step by the state at the very end.

No other induction over a loop is needed in this library: the modules about runs state what one step
does and cite these.

For results that are to be found by evaluation, `passes` and `fails` turn a statement about a
program into one that can be decided.
-/

namespace Scaffold.Program

variable {ε σ α β γ : Type}

/-! ## Results -/

/-- Where the first part gives a result, the program is its second part from there. -/
theorem bind_of_ok {act : EStateM ε σ α} {s s' : σ} {a : α} (h : act s = .ok a s')
    (next : α → EStateM ε σ β) : (act >>= next) s = next a s' := by
  show EStateM.bind act next s = next a s'
  unfold EStateM.bind
  rw [h]

/-- Where the first part fails, so does the program, and the second part is not begun. -/
theorem bind_of_error {act : EStateM ε σ α} {s s' : σ} {e : ε} (h : act s = .error e s')
    (next : α → EStateM ε σ β) : (act >>= next) s = .error e s' := by
  show EStateM.bind act next s = .error e s'
  unfold EStateM.bind
  rw [h]

/-- A program in two parts gives a result exactly if both parts do. -/
theorem bind_ok_iff {act : EStateM ε σ α} {next : α → EStateM ε σ β} {s s'' : σ} {b : β} :
    (act >>= next) s = .ok b s'' ↔ ∃ a s', act s = .ok a s' ∧ next a s' = .ok b s'' := by
  cases hact : act s with
  | ok a s' =>
    rw [bind_of_ok hact]
    constructor
    · intro h
      exact ⟨a, s', rfl, h⟩
    · intro hparts
      obtain ⟨_, _, ⟨⟩, h⟩ := hparts
      exact h
  | error e s' =>
    rw [bind_of_error hact]
    constructor
    · intro h
      cases h
    · intro hparts
      obtain ⟨_, _, h, _⟩ := hparts
      cases h

/-- A program in two parts fails exactly if its first part does, or its second part after the first.
-/
theorem bind_error_iff {act : EStateM ε σ α} {next : α → EStateM ε σ β} {s s'' : σ} {e : ε} :
    (act >>= next) s = .error e s'' ↔
      act s = .error e s'' ∨ ∃ a s', act s = .ok a s' ∧ next a s' = .error e s'' := by
  cases hact : act s with
  | ok a s' =>
    rw [bind_of_ok hact]
    constructor
    · intro h
      exact Or.inr ⟨a, s', rfl, h⟩
    · rintro (h | ⟨_, _, ⟨⟩, h⟩)
      · cases h
      · exact h
  | error e' s' =>
    rw [bind_of_error hact]
    constructor
    · intro h
      cases h
      exact Or.inl rfl
    · rintro (h | ⟨_, _, h, _⟩)
      · cases h
        rfl
      · cases h

/-- What returns after its first part fails only where that part does. -/
theorem error_of_bind_pure {act : EStateM ε σ α} {f : α → β} {s s' : σ} {e : ε}
    (h : (act >>= fun a => pure (f a)) s = .error e s') : act s = .error e s' := by
  rcases bind_error_iff.mp h with hact | ⟨_, _, _, hreturn⟩
  · exact hact
  · cases hreturn

/-- What is returned at once is given, and leaves the state. -/
theorem pure_ok_iff {s s' : σ} {a b : α} :
    (pure a : EStateM ε σ α) s = .ok b s' ↔ a = b ∧ s = s' := by
  show EStateM.Result.ok a s = .ok b s' ↔ a = b ∧ s = s'
  rw [EStateM.Result.ok.injEq]

/-- Whether a program gives a result that passes a test, which can be told by running it. -/
def passes (act : EStateM ε σ α) (test : α → σ → Bool) (s : σ) : Bool :=
  match act s with
  | .ok a s' => test a s'
  | .error _ _ => false

/-- A test that is passed was passed by a result. -/
theorem ok_of_passes {act : EStateM ε σ α} {test : α → σ → Bool} {s : σ}
    (h : passes act test s = true) : ∃ a s', act s = .ok a s' ∧ test a s' = true := by
  unfold passes at h
  cases hact : act s with
  | ok a s' =>
    rw [hact] at h
    exact ⟨a, s', rfl, h⟩
  | error e s' =>
    rw [hact] at h
    cases h

/-- Whether a program fails with an error that passes a test. -/
def fails (act : EStateM ε σ α) (test : ε → Bool) (s : σ) : Bool :=
  match act s with
  | .ok _ _ => false
  | .error e _ => test e

/-- A failure that passes a test is a failure. -/
theorem error_of_fails {act : EStateM ε σ α} {test : ε → Bool} {s : σ}
    (h : fails act test s = true) : ∃ e s', act s = .error e s' ∧ test e = true := by
  unfold fails at h
  cases hact : act s with
  | ok a s' =>
    rw [hact] at h
    cases h
  | error e s' =>
    rw [hact] at h
    exact ⟨e, s', rfl, h⟩

/-- What a program gives, without the state it leaves. -/
def result (act : EStateM ε σ α) (s : σ) : Except ε α :=
  match act s with
  | .ok a _ => .ok a
  | .error e _ => .error e

theorem result_of_ok {act : EStateM ε σ α} {s s' : σ} {a : α} (h : act s = .ok a s') :
    result act s = .ok a := by
  unfold result
  rw [h]

theorem result_of_error {act : EStateM ε σ α} {s s' : σ} {e : ε} (h : act s = .error e s') :
    result act s = .error e := by
  unfold result
  rw [h]

/-- A program gives a result exactly if it leaves some state with it. -/
theorem result_ok_iff {act : EStateM ε σ α} {s : σ} {a : α} :
    result act s = .ok a ↔ ∃ s', act s = .ok a s' := by
  constructor
  · intro h
    cases hact : act s with
    | ok b s' =>
      rw [result_of_ok hact] at h
      cases h
      exact ⟨s', rfl⟩
    | error e s' =>
      rw [result_of_error hact] at h
      cases h
  · intro hparts
    obtain ⟨s', h⟩ := hparts
    exact result_of_ok h

/-- What is given once a first part is through is what the rest gives. -/
theorem result_bind_of_ok {act : EStateM ε σ α} {s s' : σ} {a : α} (h : act s = .ok a s')
    (next : α → EStateM ε σ β) : result (act >>= next) s = result (next a) s' := by
  unfold result
  rw [bind_of_ok h]

/-- Programs that end alike give the same. -/
theorem result_of_eq {act act' : EStateM ε σ α} {s s' : σ} (h : act s = act' s') :
    result act s = result act' s' := by
  unfold result
  rw [h]

/-- A failure in the first part is the failure of the program. -/
theorem result_bind_error {act : EStateM ε σ α} {s : σ} {e : ε} (h : result act s = .error e)
    (next : α → EStateM ε σ β) : result (act >>= next) s = .error e := by
  cases hact : act s with
  | ok a s' =>
    rw [result_of_ok hact] at h
    cases h
  | error e' s' =>
    rw [result_of_error hact] at h
    cases h
    exact result_of_error (bind_of_error hact next)

/-- Two programs in two parts give the same from two states if their first parts do, and their
second parts after these. -/
theorem result_bind_congr {act : EStateM ε σ α} {next : α → EStateM ε σ β} {s s' : σ}
    (h : result act s' = result act s)
    (hnext : ∀ {a s₁ s₁'}, act s = .ok a s₁ → act s' = .ok a s₁' →
      result (next a) s₁' = result (next a) s₁) :
    result (act >>= next) s' = result (act >>= next) s := by
  cases hact : act s with
  | error e s₁ =>
    rw [result_of_error hact] at h
    rw [result_bind_error h, result_bind_error (result_of_error hact)]
  | ok a s₁ =>
    rw [result_of_ok hact] at h
    obtain ⟨s₁', hact'⟩ := result_ok_iff.mp h
    rw [result_bind_of_ok hact, result_bind_of_ok hact', hnext hact hact']

/-- Turning a result into another needs no state. -/
theorem result_bind_pure (act : EStateM ε σ α) (f : α → β) (s : σ) :
    result (act >>= fun a => pure (f a)) s = (result act s).map f := by
  cases h : act s with
  | ok a s' => rw [result_bind_of_ok h, result_of_ok h]; rfl
  | error e s' => rw [result_of_error h, result_of_error (bind_of_error h _)]; rfl

/-- A program for every member of a list gives its results from the first member on. -/
theorem mapM_cons_ok_iff {act : α → EStateM ε σ β} {s s'' : σ} {a : α} {as : List α}
    {bs : List β} :
    (a :: as).mapM act s = .ok bs s'' ↔
      ∃ b s' rest, act a s = .ok b s' ∧ as.mapM act s' = .ok rest s'' ∧ bs = b :: rest := by
  rw [List.mapM_cons, bind_ok_iff]
  constructor
  · intro hparts
    obtain ⟨b, s', hb, h⟩ := hparts
    obtain ⟨rest, s₁, hrest, h⟩ := bind_ok_iff.mp h
    obtain ⟨rfl, rfl⟩ := pure_ok_iff.mp h
    exact ⟨b, s', rest, hb, hrest, rfl⟩
  · intro hparts
    obtain ⟨b, s', rest, hb, hrest, rfl⟩ := hparts
    exact ⟨b, s', hb, bind_ok_iff.mpr ⟨rest, s'', hrest, rfl⟩⟩

/-- What every step for a member keeps is kept by the whole, and every result is like those of
the steps. -/
theorem mapM_forward {act : α → EStateM ε σ β} {I : σ → Prop} {Q : β → Prop} {as : List α}
    {bs : List β} {s s' : σ}
    (step : ∀ {a b s s'}, a ∈ as → I s → act a s = .ok b s' → I s' ∧ Q b)
    (h : as.mapM act s = .ok bs s') (hs : I s) : I s' ∧ ∀ b ∈ bs, Q b := by
  induction as generalizing s bs with
  | nil =>
    obtain ⟨rfl, rfl⟩ := pure_ok_iff.mp h
    exact ⟨hs, nofun⟩
  | cons a as ih =>
    obtain ⟨b, s₁, rest, hb, hrest, rfl⟩ := mapM_cons_ok_iff.mp h
    obtain ⟨hs₁, hQ⟩ := step (List.mem_cons_self ..) hs hb
    obtain ⟨hs', hall⟩ := ih (fun ha => step (List.mem_cons_of_mem _ ha)) hrest hs₁
    exact ⟨hs', List.forall_mem_cons.mpr ⟨hQ, hall⟩⟩

/-- Steps that depend on the members before: what holds after those is carried over each step, and
every result is told by its member and those before it. -/
theorem mapM_along {act : α → EStateM ε σ β} {I : List α → σ → Prop} {Q : List α → α → β → Prop}
    {as : List α} {bs : List β} {s s' : σ}
    (step : ∀ {done a rest b s s'}, as = done ++ a :: rest → I done s → act a s = .ok b s' →
      I (done ++ [a]) s' ∧ Q done a b)
    (h : as.mapM act s = .ok bs s') (hs : I [] s) :
    I as s' ∧ bs.length = as.length ∧
      ∀ i a b, as[i]? = some a → bs[i]? = some b → Q (as.take i) a b := by
  -- The members that are left are those after a first part, which has been gone through.
  have hgeneral : ∀ (left done : List α) (bs : List β) (s : σ), as = done ++ left → I done s →
      left.mapM act s = .ok bs s' →
        I as s' ∧ bs.length = left.length ∧
          ∀ i a b, left[i]? = some a → bs[i]? = some b → Q (done ++ left.take i) a b := by
    intro left
    induction left with
    | nil =>
      intro done bs s has hdone h
      obtain ⟨rfl, rfl⟩ := pure_ok_iff.mp h
      rw [List.append_nil] at has
      exact ⟨has ▸ hdone, rfl, nofun⟩
    | cons a left ih =>
      intro done bs s has hdone h
      obtain ⟨b, s₁, rest, hb, hrest, rfl⟩ := mapM_cons_ok_iff.mp h
      obtain ⟨hs₁, hQ⟩ := step has hdone hb
      obtain ⟨hs', hlength, hall⟩ :=
        ih (done ++ [a]) rest s₁ (has.trans (List.append_cons ..)) hs₁ hrest
      refine ⟨hs', congrArg (· + 1) hlength, fun i a' b' ha' hb' => ?_⟩
      cases i with
      | zero =>
        cases ha'
        cases hb'
        rw [List.take_zero, List.append_nil]
        exact hQ
      | succ i =>
        rw [List.take_succ_cons, List.append_cons]
        exact hall i a' b' ha' hb'
  exact hgeneral as [] bs s rfl hs h

/-- The same where every result follows from its member, wherever that stands. -/
theorem mapM_along_map {act : α → EStateM ε σ β} {I : List α → σ → Prop} {e : α → β}
    {as : List α} {bs : List β} {s s' : σ}
    (step : ∀ {done a rest b s s'}, as = done ++ a :: rest → I done s → act a s = .ok b s' →
      I (done ++ [a]) s' ∧ b = e a)
    (h : as.mapM act s = .ok bs s') (hs : I [] s) : I as s' ∧ bs = as.map e := by
  obtain ⟨hs', hlength, hall⟩ := mapM_along (Q := fun _ a b => b = e a) step h hs
  refine ⟨hs', List.ext_getElem? fun i => ?_⟩
  rw [List.getElem?_map]
  rcases Nat.lt_or_ge i as.length with hi | hi
  · rw [List.getElem?_eq_getElem hi, List.getElem?_eq_getElem (hlength ▸ hi), Option.map_some]
    exact congrArg some (hall i _ _ (List.getElem?_eq_getElem hi)
      (List.getElem?_eq_getElem (hlength ▸ hi)))
  · rw [List.getElem?_eq_none hi, List.getElem?_eq_none (hlength ▸ hi)]
    rfl

/-- The same for what a step shows about its member. -/
theorem mapM_members {act : α → EStateM ε σ β} {I : σ → Prop} {P : α → Prop} {as : List α}
    {bs : List β} {s s' : σ} (step : ∀ {a b s s'}, I s → act a s = .ok b s' → I s' ∧ P a)
    (h : as.mapM act s = .ok bs s') (hs : I s) : ∀ a ∈ as, P a := by
  induction as generalizing s bs with
  | nil => exact nofun
  | cons a as ih =>
    obtain ⟨b, s₁, rest, hb, hrest, rfl⟩ := mapM_cons_ok_iff.mp h
    obtain ⟨hs₁, hP⟩ := step hs hb
    exact List.forall_mem_cons.mpr ⟨hP, ih hrest hs₁⟩

/-- What is told of the results is what is expected of the members, one by one. -/
theorem mapM_map {act : α → EStateM ε σ β} {I : σ → Prop} {f : β → γ} {e : α → γ}
    {as : List α} {bs : List β} {s s' : σ}
    (step : ∀ {a b s s'}, I s → act a s = .ok b s' → I s' ∧ f b = e a)
    (h : as.mapM act s = .ok bs s') (hs : I s) : I s' ∧ bs.map f = as.map e := by
  induction as generalizing s bs with
  | nil =>
    obtain ⟨rfl, rfl⟩ := pure_ok_iff.mp h
    exact ⟨hs, rfl⟩
  | cons a as ih =>
    obtain ⟨b, s₁, rest, hb, hrest, rfl⟩ := mapM_cons_ok_iff.mp h
    obtain ⟨hs₁, hfb⟩ := step hs hb
    obtain ⟨hs', hall⟩ := ih hrest hs₁
    refine ⟨hs', ?_⟩
    rw [List.map_cons, List.map_cons, hfb, hall]

/-- What the steps bring about is added up along their results. -/
theorem mapM_collect {act : α → EStateM ε σ β} {R : σ → σ → List β → Prop} {as : List α}
    {bs : List β} {s s' : σ} (refl : ∀ s, R s s [])
    (trans : ∀ {s s' s'' bs bs'}, R s s' bs → R s' s'' bs' → R s s'' (bs ++ bs'))
    (step : ∀ {a b s s'}, b ∈ bs → act a s = .ok b s' → R s s' [b])
    (h : as.mapM act s = .ok bs s') : R s s' bs := by
  induction as generalizing s bs with
  | nil =>
    obtain ⟨rfl, rfl⟩ := pure_ok_iff.mp h
    exact refl s
  | cons a as ih =>
    obtain ⟨b, s₁, rest, hb, hrest, rfl⟩ := mapM_cons_ok_iff.mp h
    have hfirst := step (List.mem_cons_self ..) hb
    exact trans hfirst (ih (fun hmem => step (List.mem_cons_of_mem _ hmem)) hrest)

/-- Steps that are judged by the state at the very end: each may use that the way from it to the
end is in the relation, and what it brings about stays along the relation. -/
theorem mapM_backward {act : α → EStateM ε σ β} {R : σ → σ → Prop} {P : α → σ → Prop}
    {as : List α} {bs : List β} {s s' : σ} (refl : ∀ s, R s s)
    (trans : ∀ {s s' s''}, R s s' → R s' s'' → R s s'')
    (stay : ∀ {a s s'}, R s s' → P a s → P a s')
    (step : ∀ {a b s s₁}, b ∈ bs → act a s = .ok b s₁ → R s₁ s' → R s s₁ ∧ P a s₁)
    (h : as.mapM act s = .ok bs s') : R s s' ∧ ∀ a ∈ as, P a s' := by
  induction as generalizing s bs with
  | nil =>
    obtain ⟨_, rfl⟩ := pure_ok_iff.mp h
    exact ⟨refl s, nofun⟩
  | cons a as ih =>
    obtain ⟨b, s₁, rest, hb, hrest, rfl⟩ := mapM_cons_ok_iff.mp h
    obtain ⟨hR, hall⟩ := ih (fun hmem => step (List.mem_cons_of_mem _ hmem)) hrest
    obtain ⟨hR₁, hP⟩ := step (List.mem_cons_self ..) hb hR
    exact ⟨trans hR₁ hR, List.forall_mem_cons.mpr ⟨stay hR hP, hall⟩⟩

/-- The same for computations that leave no state. -/
theorem except_bind_ok_iff {act : Except ε α} {next : α → Except ε β} {b : β} :
    (act >>= next) = .ok b ↔ ∃ a, act = .ok a ∧ next a = .ok b := by
  cases act with
  | ok a =>
    constructor
    · intro h
      exact ⟨a, rfl, h⟩
    · intro hparts
      obtain ⟨_, ⟨⟩, h⟩ := hparts
      exact h
  | error e =>
    constructor
    · intro h
      cases h
    · intro hparts
      obtain ⟨_, h, _⟩ := hparts
      cases h

/-- What a computation is known to give as an option, it gives. -/
theorem ok_of_toOption {value : Except ε α} {a : α} (h : value.toOption = some a) :
    value = .ok a := by
  cases value with
  | ok b =>
    cases h
    rfl
  | error e => cases h

/-- Every result of a computation for the members of a list is that of one member. -/
theorem mem_of_mapM_ok {f : α → Except ε β} {as : List α} {bs : List β}
    (h : as.mapM f = .ok bs) {b : β} (hb : b ∈ bs) : ∃ a ∈ as, f a = .ok b := by
  induction as generalizing bs with
  | nil =>
    cases h
    cases hb
  | cons a as ih =>
    rw [List.mapM_cons] at h
    obtain ⟨b₀, hb₀, h⟩ := except_bind_ok_iff.mp h
    obtain ⟨rest, hrest, h⟩ := except_bind_ok_iff.mp h
    cases h
    rcases List.mem_cons.mp hb with rfl | hb
    · exact ⟨a, List.mem_cons_self .., hb₀⟩
    · obtain ⟨a', ha', hfa'⟩ := ih hrest hb
      exact ⟨a', List.mem_cons_of_mem _ ha', hfa'⟩

/-- The same where some members have no result. -/
theorem mem_of_filterMapM_ok {f : α → Except ε (Option β)} {as : List α} {bs : List β}
    (h : as.filterMapM f = .ok bs) {b : β} (hb : b ∈ bs) : ∃ a ∈ as, f a = .ok (some b) := by
  induction as generalizing bs with
  | nil =>
    cases h
    cases hb
  | cons a as ih =>
    rw [List.filterMapM_cons] at h
    obtain ⟨found, hfound, h⟩ := except_bind_ok_iff.mp h
    cases found with
    | none =>
      obtain ⟨a', ha', hfa'⟩ := ih h hb
      exact ⟨a', List.mem_cons_of_mem _ ha', hfa'⟩
    | some b₀ =>
      obtain ⟨rest, hrest, h⟩ := except_bind_ok_iff.mp h
      cases h
      rcases List.mem_cons.mp hb with rfl | hb
      · exact ⟨a, List.mem_cons_self .., hfound⟩
      · obtain ⟨a', ha', hfa'⟩ := ih hrest hb
        exact ⟨a', List.mem_cons_of_mem _ ha', hfa'⟩

/-- A computation for every member of a list has results exactly if each has one. -/
theorem except_mapM_ok_iff {f : α → Except ε β} {as : List α} :
    (∃ bs, as.mapM f = .ok bs) ↔ ∀ a ∈ as, ∃ b, f a = .ok b := by
  induction as with
  | nil => exact ⟨fun _ => nofun, fun _ => ⟨[], rfl⟩⟩
  | cons a as ih =>
    rw [List.mapM_cons, List.forall_mem_cons, ← ih]
    constructor
    · intro hparts
      obtain ⟨bs, h⟩ := hparts
      obtain ⟨b, hb, h⟩ := except_bind_ok_iff.mp h
      obtain ⟨rest, hrest, _⟩ := except_bind_ok_iff.mp h
      exact ⟨⟨b, hb⟩, rest, hrest⟩
    · intro hparts
      obtain ⟨⟨b, hb⟩, rest, hrest⟩ := hparts
      exact ⟨b :: rest, except_bind_ok_iff.mpr ⟨b, hb, except_bind_ok_iff.mpr ⟨rest, hrest, rfl⟩⟩⟩

/-- The same where some members may have no result. -/
theorem except_filterMapM_ok_iff {f : α → Except ε (Option β)} {as : List α} :
    (∃ bs, as.filterMapM f = .ok bs) ↔ ∀ a ∈ as, ∃ found, f a = .ok found := by
  induction as with
  | nil => exact ⟨fun _ => nofun, fun _ => ⟨[], rfl⟩⟩
  | cons a as ih =>
    rw [List.filterMapM_cons, List.forall_mem_cons, ← ih]
    constructor
    · intro hparts
      obtain ⟨bs, h⟩ := hparts
      obtain ⟨found, hfound, h⟩ := except_bind_ok_iff.mp h
      cases found with
      | none => exact ⟨⟨none, hfound⟩, bs, h⟩
      | some b =>
        obtain ⟨rest, hrest, _⟩ := except_bind_ok_iff.mp h
        exact ⟨⟨some b, hfound⟩, rest, hrest⟩
    · intro hparts
      obtain ⟨⟨found, hfound⟩, rest, hrest⟩ := hparts
      cases found with
      | none => exact ⟨rest, except_bind_ok_iff.mpr ⟨none, hfound, hrest⟩⟩
      | some b =>
        exact ⟨b :: rest, except_bind_ok_iff.mpr ⟨some b, hfound,
          except_bind_ok_iff.mpr ⟨rest, hrest, rfl⟩⟩⟩

/-- What is told of the results is what is expected of the members that have one. -/
theorem except_filterMapM_map {f : α → Except ε (Option β)} {p : β → γ} {q : α → Option γ}
    {as : List α} {bs : List β} (step : ∀ {a found}, f a = .ok found → found.map p = q a)
    (h : as.filterMapM f = .ok bs) : bs.map p = as.filterMap q := by
  induction as generalizing bs with
  | nil =>
    cases h
    rfl
  | cons a as ih =>
    rw [List.filterMapM_cons] at h
    obtain ⟨found, hfound, h⟩ := except_bind_ok_iff.mp h
    have htold := step hfound
    cases found with
    | none => rw [List.filterMap_cons_none htold.symm, ih h]
    | some b =>
      obtain ⟨rest, hrest, h⟩ := except_bind_ok_iff.mp h
      cases h
      rw [List.filterMap_cons_some htold.symm, List.map_cons, ih hrest]

/-- The same where every member has a result. -/
theorem except_mapM_map {f : α → Except ε β} {p : β → γ} {q : α → γ} {as : List α} {bs : List β}
    (step : ∀ {a b}, f a = .ok b → p b = q a) (h : as.mapM f = .ok bs) :
    bs.map p = as.map q := by
  induction as generalizing bs with
  | nil =>
    cases h
    rfl
  | cons a as ih =>
    rw [List.mapM_cons] at h
    obtain ⟨b, hb, h⟩ := except_bind_ok_iff.mp h
    obtain ⟨rest, hrest, h⟩ := except_bind_ok_iff.mp h
    cases h
    rw [List.map_cons, List.map_cons, step hb, ih hrest]

/-- A program with a handler gives what it gives without failing, or what the handler makes of the
failure. -/
theorem tryCatch_ok_iff {act : EStateM ε σ α} {handle : ε → EStateM ε σ α} {s s' : σ} {a : α} :
    tryCatch act handle s = .ok a s' ↔
      act s = .ok a s' ∨ ∃ e s₁, act s = .error e s₁ ∧ handle e s₁ = .ok a s' := by
  show EStateM.tryCatch act handle s = .ok a s' ↔ _
  unfold EStateM.tryCatch
  cases h : act s with
  | ok b s₁ =>
    constructor
    · exact Or.inl
    · rintro (heq | ⟨_, _, herror, _⟩)
      · exact heq
      · cases herror
  | error e s₁ =>
    constructor
    · exact fun hhandle => Or.inr ⟨e, s₁, rfl, hhandle⟩
    · rintro (heq | ⟨_, _, herror, hhandle⟩)
      · cases heq
      · cases herror
        exact hhandle

/-! ## States -/

/-- The state that a program leaves, whether it gives a result or fails. -/
def after (act : EStateM ε σ α) (s : σ) : σ :=
  match act s with
  | .ok _ s' => s'
  | .error _ s' => s'

theorem after_of_ok {act : EStateM ε σ α} {s s' : σ} {a : α} (h : act s = .ok a s') :
    after act s = s' := by
  unfold after
  rw [h]

theorem after_of_error {act : EStateM ε σ α} {s s' : σ} {e : ε} (h : act s = .error e s') :
    after act s = s' := by
  unfold after
  rw [h]

theorem after_of_eq {act act' : EStateM ε σ α} {s s' : σ} (h : act s = act' s') :
    after act s = after act' s' := by
  unfold after
  rw [h]

/-- What a program returns at its end does not matter to the state. -/
theorem after_bind_pure (act : EStateM ε σ α) (b : β) (s : σ) :
    after (act >>= fun _ => pure b) s = after act s := by
  cases h : act s with
  | ok a s' =>
    rw [after_of_ok h]
    exact after_of_ok (bind_of_ok h _)
  | error e s' => rw [after_of_error h, after_of_error (bind_of_error h _)]

/-- The program with its failure as one of its results, so that others can come after it. -/
def attempt (act : EStateM ε σ α) : EStateM ε σ (Except ε α) :=
  fun s => .ok (result act s) (after act s)

theorem attempt_of_ok {act : EStateM ε σ α} {s s' : σ} {a : α} (h : act s = .ok a s') :
    attempt act s = .ok (.ok a) s' := by
  rw [attempt, result_of_ok h, after_of_ok h]

theorem attempt_of_error {act : EStateM ε σ α} {s s' : σ} {e : ε} (h : act s = .error e s') :
    attempt act s = .ok (.error e) s' := by
  rw [attempt, result_of_error h, after_of_error h]

theorem attempt_of_eq {act act' : EStateM ε σ α} {s s' : σ} (h : act s = act' s') :
    attempt act s = attempt act' s' := by
  rw [attempt, attempt, result_of_eq h, after_of_eq h]

/-- The state that a program leaves stands in a relation to the one before, from wherever it
starts. -/
def Leaves (R : σ → σ → Prop) (act : EStateM ε σ α) : Prop := ∀ s, R s (after act s)

section

variable {R : σ → σ → Prop}

/-- A program in two parts leaves states in a transitive relation if both parts do. -/
theorem Leaves.bind {act : EStateM ε σ α} {next : α → EStateM ε σ β} (hact : Leaves R act)
    (trans : ∀ {s s' s''}, R s s' → R s' s'' → R s s'') (hnext : ∀ a, Leaves R (next a)) :
    Leaves R (act >>= next) := by
  intro s
  have hs := hact s
  cases h : act s with
  | ok a s' =>
    rw [after_of_ok h] at hs
    have hrest := hnext a s'
    unfold after at hrest ⊢
    rw [bind_of_ok h]
    exact trans hs hrest
  | error e s' =>
    rw [after_of_error h] at hs
    rw [after_of_error (bind_of_error h next)]
    exact hs

/-- A program with a handler, which begins where the program has failed, leaves states in a
transitive relation if both do. -/
theorem Leaves.tryCatch {act : EStateM ε σ α} {handle : ε → EStateM ε σ α} (hact : Leaves R act)
    (trans : ∀ {s s' s''}, R s s' → R s' s'' → R s s'') (hhandle : ∀ e, Leaves R (handle e)) :
    Leaves R (tryCatch act handle) := by
  intro s
  have hs := hact s
  show R s (after (EStateM.tryCatch act handle) s)
  unfold after EStateM.tryCatch
  cases h : act s with
  | ok a s' =>
    rw [after_of_ok h] at hs
    exact hs
  | error e s' =>
    rw [after_of_error h] at hs
    exact trans hs (hhandle e s')

end

/-- Asking for the state first is starting with it in hand. -/
theorem bind_get (next : σ → EStateM ε σ β) (s : σ) : (get >>= next) s = next s s := rfl

/-! ## Failures -/

/-- Every failure of the program is of one sort. -/
def FailsOnly (P : ε → Prop) (act : EStateM ε σ α) : Prop :=
  ∀ s s' e, act s = .error e s' → P e

section

variable {P : ε → Prop}

/-- A program that always gives a result fails in no way at all. -/
theorem FailsOnly.of_returns {act : EStateM ε σ α} (h : ∀ s, ∃ a s', act s = .ok a s') :
    FailsOnly P act := by
  intro s s' e herror
  obtain ⟨a, s₁, hact⟩ := h s
  rw [hact] at herror
  cases herror

theorem FailsOnly.pure (a : α) : FailsOnly P (pure a : EStateM ε σ α) :=
  of_returns fun s => ⟨a, s, rfl⟩

theorem FailsOnly.throw {e : ε} (h : P e) : FailsOnly P (throw e : EStateM ε σ α) := by
  intro s s' e' hthrown
  cases hthrown
  exact h

/-- A program in two parts fails in the ways of its parts. -/
theorem FailsOnly.bind {act : EStateM ε σ α} {next : α → EStateM ε σ β} (h : FailsOnly P act)
    (hnext : ∀ a, FailsOnly P (next a)) : FailsOnly P (act >>= next) := by
  intro s s' e herror
  rcases bind_error_iff.mp herror with herror | ⟨a, s₁, _, herror⟩
  · exact h s s' e herror
  · exact hnext a s₁ s' e herror

/-- With a handler only the failures of the handler are left. -/
theorem FailsOnly.tryCatch {act : EStateM ε σ α} {handle : ε → EStateM ε σ α}
    (h : FailsOnly P act) (hhandle : ∀ e, P e → FailsOnly P (handle e)) :
    FailsOnly P (tryCatch act handle) := by
  intro s s' e herror
  change EStateM.tryCatch act handle s = .error e s' at herror
  unfold EStateM.tryCatch at herror
  cases hact : act s with
  | ok a s₁ =>
    rw [hact] at herror
    cases herror
  | error e₁ s₁ =>
    rw [hact] at herror
    exact hhandle e₁ (h s s₁ e₁ hact) s₁ s' e herror

end

end Scaffold.Program
