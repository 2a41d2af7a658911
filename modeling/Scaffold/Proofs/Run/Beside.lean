import Scaffold.Proofs.Run.Probe

/-!
# Runs beside a run that returns

Of one run it is known that it returns. Another run beside it, from the same session and over the
same tables but for some that are passed over, has the same files, entries and prompts at every
step; what is printed and asked of servers may differ, and so may the clock (`Beside`). The other
run then returns as well (`generate_beside`), unless it is broken off in a way that is excused: by
its own clock, or by the console where it prints what the first run does not (`Leeway`). That the
first run returns tells that everything it prints is shown.

Two results rest on this. Leaving out the tables that cannot be read changes nothing for the others
(`Scaffold.Proofs.Run.Unreadable`), and neither does taking away a backend that is of no use
(`Scaffold.Proofs.Run.Degradation`). They differ in their leeway: in the first case the clock of the
other run may give anything and what it prints is not looked at, so that both can break it off; in
the second the other run is on the same clock and prints nothing new, so that nothing can.

What is left open here is how texts are produced in the other run (`Produces`), which the two
results have to supply, and which tables may be passed over (`Skippable`).
-/

namespace Scaffold.Run

open Inference (Network)
open Program (Bond Follows bind_of_error bind_of_ok bind_ok_iff)

/-- The sessions have the same files, entries and prompts, the entries are known, and the numbers
of readings of the clocks are in a relation. -/
structure Beside (T : Nat → Nat → Prop) (g : Generator) (es : List Entry)
    (s s' : Session) : Prop where
  tree : s'.tree = s.tree
  entries : s'.entries = s.entries
  known : Known g s es
  prompts : s'.prompts = s.prompts
  readings : T s.readings s'.readings

/-- The other run need not share the faults of the first. Its own are excused if they are said
to be. -/
def besideBond (T : Nat → Nat → Prop) (g : Generator) (entries : List Entry)
    (excused : Fault → Prop) : Bond Fault Session where
  states := Beside T g entries
  errors := fun _ _ => True
  counts := fun _ => False
  excused

/-- Where the console shows some messages, it is excused where it refuses one of some others. -/
def Spares (c : Console) (excused : Fault → Prop) (ms ms' : List Message) : Prop :=
  c.Shows ms → ∀ m ∈ ms', ∀ reason, c.refusal? m = some reason → excused (.console m reason)

/-- Where a console shows what one run prints, the other prints what it has instead, or is excused
for breaking off. -/
theorem say_spared {c : Console} {excused : Fault → Prop} {ms ms' : List Message}
    (h : Spares c excused ms ms') (hshows : c.Shows ms) (s : Session) :
    Step.say c ms' s = .ok () { s with messages := s.messages ++ ms' } ∨
      ∃ fault s', Step.say c ms' s = .error fault s' ∧ excused fault := by
  cases hsay : Step.say c ms' s with
  | ok u s' =>
    obtain ⟨_, rfl⟩ := say_ok_iff.mp hsay
    exact Or.inl rfl
  | error fault s' =>
    obtain ⟨m, hm, reason, rfl, hrefused⟩ := say_error hsay
    exact Or.inr ⟨_, s', rfl, h hshows m hm reason hrefused⟩

/-- What the other run may do differently: its clock may read other times, and it may print other
messages. Where the clock tells no duration, and where the console refuses a message that is
printed in place of one that is shown, the other run is excused. -/
structure Leeway (g : Generator) (clock : Nat → Float) (T : Nat → Nat → Prop)
    (V : List Message → List Message → Prop) (excused : Fault → Prop) : Prop where
  refl : ∀ i, T i i
  tick : ∀ {i i'}, T i i' → T (i + 1) (i' + 1)
  tells : ∀ {i i' j j' t}, T i i' → T j j' → Duration.render? (g.clock j - g.clock i) = some t →
    Duration.render? (clock j' - clock i') = none → excused .clock
  reworded : ∀ {i i' j j' t t'}, T i i' → T j j' →
    Duration.render? (g.clock j - g.clock i) = some t →
      Duration.render? (clock j' - clock i') = some t' → Reworded V t t'
  same : ∀ ms, V ms ms
  shown : ∀ {ms ms'}, V ms ms' → Spares g.console excused ms ms'

section

variable {T : Nat → Nat → Prop} {V : List Message → List Message → Prop} {excused : Fault → Prop}
  {g : Generator} {entries : List Entry} {backend : Backend} {network : Network}
  {clock : Nat → Float}

theorem companions_beside (h : Leeway g clock T V excused) :
    Companions g clock entries T V (besideBond T g entries excused) where
  tree := Beside.tree
  known := fun hs => ⟨hs.known, hs.known.of_entries hs.entries⟩
  readings := Beside.readings
  same := h.same
  prints := by
    intro ms ms' hV s s' hs hcounts
    rcases say_cases g.console ms with ⟨hshows, hsay⟩ | ⟨_, _, _, _, _, _, _, hsay⟩
    · rw [hsay]
      rcases say_spared (h.shown hV) hshows s' with hsay' | ⟨fault, s'', hsay', hexcused⟩
      · rw [hsay']
        exact .ok rfl ⟨hs.tree, hs.entries, hs.known, hs.prompts, hs.readings⟩
      · rw [hsay']
        exact .excused hexcused
    · rw [hsay] at hcounts
      exact hcounts.elim
  changed := fun _ hs => ⟨rfl, hs.entries, hs.known, hs.prompts, hs.readings⟩
  ticked := fun hs => ⟨hs.tree, hs.entries, hs.known, hs.prompts, h.tick hs.readings⟩
  duration := by
    intro i i' j j' hi hj
    unfold Step.duration
    cases htold : Duration.render? (g.clock j - g.clock i) with
    | none => exact fun _ _ _ hcounts => hcounts.elim
    | some elapsed =>
      cases htold' : Duration.render? (clock j' - clock i') with
      | none => exact fun _ _ _ _ => .excused (h.tells hi hj htold htold')
      | some elapsed' => exact Follows.pure (h.reworded hi hj htold htold')
  errors := fun _ _ => trivial

/-! ## Before the tables -/

/-- Listing the stubs depends on the files only, and on the console, which shows them again. -/
theorem diagnoseStubs_again {s s' later : Session} (h : diagnoseStubs g s = .ok () s')
    (htree : later.tree = s.tree) :
    ∃ ms, diagnoseStubs g later = .ok () { later with messages := ms } := by
  unfold diagnoseStubs at h ⊢
  split at h
  next hdebug =>
    rw [if_pos hdebug]
    obtain ⟨names, s₁, hnames, hsay⟩ := bind_ok_iff.mp h
    obtain ⟨t, hlist, rfl⟩ := files_ok_iff.mp hnames
    have hreads : Files.Reads (Stub.names g.stubs) :=
      (Files.reads_list _).bind fun names => Files.Reads.pure _
    obtain rfl := hreads.tree_eq hlist
    rw [← htree] at hlist
    rw [bind_of_ok (files_ok_iff.mpr ⟨later.tree, hlist, rfl⟩)]
    exact ⟨_, say_of_shows (say_ok_iff.mp hsay).1 later⟩
  next hdebug =>
    rw [if_neg hdebug]
    exact ⟨later.messages, rfl⟩

/-- A run over other tables opens as well, and comes to the same, if its first panel is shown. -/
theorem opening_again {tables tables' : List Text} {force : Bool} {s s' : Session}
    (h : opening g tables force s = .ok () s')
    (hpanel : ∀ base artifacts, Spares g.console excused [startPanel g base tables artifacts force]
      [startPanel { g with backend, network, clock } base tables' artifacts force]) :
    (∃ ms, opening { g with backend, network, clock } tables' force s =
      .ok () { s' with messages := ms }) ∨
    ∃ fault s'', opening { g with backend, network, clock } tables' force s = .error fault s'' ∧
      excused fault := by
  unfold opening at h ⊢
  obtain ⟨loaded, s₁, hload, h⟩ := bind_ok_iff.mp h
  obtain ⟨base, s₂, hbase, h⟩ := bind_ok_iff.mp h
  obtain ⟨_, s₃, hsay, hstubs⟩ := bind_ok_iff.mp h
  obtain ⟨hshows, rfl⟩ := say_ok_iff.mp hsay
  have hload' : loadStructure { g with backend, network, clock } s = .ok loaded s₁ := hload
  rw [bind_of_ok hload', bind_of_ok hbase]
  -- All that is done to the session once the entries are loaded is printing.
  rcases say_spared (hpanel base _) hshows s₂ with hsay' | ⟨fault, s'', hsay', hexcused⟩
  · rw [bind_of_ok hsay']
    obtain ⟨ms, hsame⟩ := diagnoseStubs_again hstubs rfl
    rw [hstubs] at hsame
    cases hsame
    exact Or.inl (diagnoseStubs_again hstubs rfl)
  · exact Or.inr ⟨fault, s'', bind_of_error hsay' _, hexcused⟩

/-- Nothing but the messages and the requests is different after the probe. -/
theorem probe_ok {s s' : Session} (h : probe g s = .ok () s') : Probed s s' := by
  have hsaid : ∀ ms, Step.say g.console ms s = .ok () s' → Probed s s' := by
    intro ms hsay
    obtain ⟨_, rfl⟩ := say_ok_iff.mp hsay
    exact ⟨_, s.requests, rfl, rfl⟩
  cases hbackend : g.backend with
  | server server model =>
    rcases probe_cases hbackend s with ⟨_, s₁, hprobe, hprobed⟩ | ⟨_, fault, s₁, hprobe⟩
    · rw [hprobe] at h
      cases h
      exact hprobed
    · rw [hprobe] at h
      cases h
  | none =>
    unfold probe at h
    simp only [hbackend] at h
    exact hsaid _ h
  | custom name answer =>
    unfold probe at h
    simp only [hbackend] at h
    exact hsaid _ h

/-! ## Whole runs -/

/-- A run beside one that returns returns, too, if its probe comes through and it keeps up in
producing texts, or it breaks off with an excuse. -/
theorem generate_beside (keep : Text → Bool) {fit : Outcome → Prop} {view : Outcome → Outcome}
    {tables : List Text} {force : Option Bool} {s s' : Session} {r : Report}
    (hleeway : Leeway g clock T V excused) (hview : Outcome.bare.FactorsThrough view)
    (hkeep : (∀ table, keep table = true) ∨ ∀ ms ms', V ms ms')
    (hpanel : ∀ base artifacts, Spares g.console excused
      [startPanel g base tables artifacts (force.getD g.settings.forceOverwrite)]
      [startPanel { g with backend, network, clock } base (tables.filter keep) artifacts
        (force.getD g.settings.forceOverwrite)])
    (hprobe : ∀ s₁ s₂ s₁', s₁'.requests = s₁.requests → probe g s₁ = .ok () s₂ →
      ∃ s₂', probe { g with backend, network, clock } s₁' = .ok () s₂')
    (hproduces : ∀ entries,
      Produces g { g with backend, network, clock } (besideBond T g entries excused) fit view)
    (hskip : ∀ entries table, keep table = false →
      Skippable g (besideBond T g entries excused) table)
    (h : generate g tables force s = .ok r s') (hfit : ∀ o ∈ r.outcomes, fit o) :
    (∃ r' s'', generate { g with backend, network, clock } (tables.filter keep) force s =
        .ok r' s'' ∧
      s''.tree = s'.tree ∧ s''.prompts = s'.prompts ∧
      r'.tables.map (TableReport.seen view) =
        (r.tables.filter fun t => keep t.table).map (TableReport.seen view)) ∨
    ∃ fault s'', generate { g with backend, network, clock } (tables.filter keep) force s =
      .error fault s'' ∧ excused fault := by
  rw [generate_eq] at h
  rw [generate_eq]
  obtain ⟨_, s₁, hopening, h⟩ := bind_ok_iff.mp h
  obtain ⟨_, s₂, hprobed, hcourse⟩ := bind_ok_iff.mp h
  obtain ⟨entries, _, _, _, hknown⟩ := opening_ok hopening
  -- The other run opens with another panel, and is at the same place then or excused.
  have hagain : (∃ ms, opening { g with backend, network, clock } (tables.filter keep)
      (force.getD g.settings.forceOverwrite) s = .ok () { s₁ with messages := ms }) ∨
      ∃ fault s'', opening { g with backend, network, clock } (tables.filter keep)
        (force.getD g.settings.forceOverwrite) s = .error fault s'' ∧ excused fault :=
    opening_again hopening hpanel
  rcases hagain with ⟨ms, hopening'⟩ | ⟨fault, s'', hopening', hexcused⟩
  · obtain ⟨s₂', hprobed'⟩ := hprobe s₁ s₂ { s₁ with messages := ms } rfl hprobed
    have hthere := (probe_ok hprobed).known hknown
    obtain ⟨ms₂, requests, rfl, _⟩ := probe_ok hprobed
    obtain ⟨ms₂', requests', rfl, _⟩ := probe_ok hprobed'
    rw [bind_of_ok hopening', bind_of_ok hprobed']
    have hbeside : Beside T g entries { s₁ with messages := ms₂, requests }
        { s₁ with messages := ms₂', requests := requests' } :=
      ⟨rfl, rfl, hthere, rfl, hleeway.refl s₁.readings⟩
    have hfollows := follows_course (companions_beside hleeway) hview nofun (hproduces entries)
      keep hkeep (hskip entries) tables (force.getD g.settings.forceOverwrite)
    rcases hfollows.ok hbeside hcourse
      (fun t ht o ho => hfit o (List.mem_flatMap.mpr ⟨t, ht, ho⟩)) with
      ⟨r', s'', hcourse', hend, hseen⟩ | hbroken
    · exact Or.inl ⟨r', s'', hcourse', hend.tree, hend.prompts, hseen⟩
    · exact Or.inr hbroken
  · exact Or.inr ⟨fault, s'', bind_of_error hopening' _, hexcused⟩

end

end Scaffold.Run
