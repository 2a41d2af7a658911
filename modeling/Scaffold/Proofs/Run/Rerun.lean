import Scaffold.Proofs.Run.Batch

/-!
# Running again

After a run that returned, every table whose columns can be read is `Settled`: something stands
where its artifacts belong, and its route is in the routes file. Nothing that comes after in the run
undoes this (`Advances`). An unforced run over settled tables finds nothing to do, whatever the
backend answers (`generate_again_unchanged`): it leaves every file as it is, skips every artifact
and adds no route, while it reports on the same tables and artifacts as the first run.

The second run is another run in all but the catalog, the settings and the files. It may have
another backend, another network and another clock, and the first one may have been forced. It
starts from the files that the first one left, and with the entries it knew or with none.

Two conditions stand in the theorem, and both are needed.

* No artifact has the routes file as its target (`Apart`). Otherwise a forced run writes the
  artifact over the routes that it has just registered, and the second run adds them again.
* No route has a carriage return in it (`ReturnFree`). A file is read with line feeds for carriage
  returns, so such a line is never found in the file it was written to.

Where paths lead is compared at the end of the first run: a path may lead nowhere before that.
-/

namespace Scaffold.Run

open Files (Grows Path Tree)
open Program (mapM_backward mapM_forward ok_of_passes passes)
open Route (Registered)
open Structure (Turns)

/-! ## What a run does not undo -/

/-- The target does not lead to the routes file. -/
def Apart (t : Tree) (routes target : Path) : Prop :=
  ∀ x ∈ place? t target, place? t routes ≠ some x

instance (t : Tree) (routes target : Path) : Decidable (Apart t routes target) :=
  inferInstanceAs (Decidable (∀ x ∈ place? t target, place? t routes ≠ some x))

/-- The route declaration of the table has no carriage returns. -/
def ReturnFree (g : Generator) (table : Text) : Prop :=
  ∀ declaration ∈ (declarationOf g table).toOption, CodePoint.char '\r' ∉ declaration

instance (g : Generator) (table : Text) : Decidable (ReturnFree g table) :=
  inferInstanceAs (Decidable (∀ declaration ∈ (declarationOf g table).toOption,
    CodePoint.char '\r' ∉ declaration))

/-- Nothing has gone from the files, changed ones are source texts or have new declarations at
their ends, and lines of the routes file and entries are still there. -/
structure Advances (g : Generator) (s s' : Session) : Prop where
  grows : Grows s.tree s'.tree
  turns : Turns s.tree s'.tree
  registered : ∀ {line}, Registered s.tree g.settings.routesPath line →
    Registered s'.tree g.settings.routesPath line
  recalls : Recalls g s s'

/-- Learning the entries undoes nothing. -/
theorem Learns.advances {g : Generator} {s s' : Session} (h : Learns g s s') :
    Advances g s s' := by
  refine ⟨?_, ?_, ?_, h.recalls⟩
  · rw [h.tree]
    exact Grows.refl _
  · rw [h.tree]
    exact Turns.refl _
  · intro line hline
    rw [h.tree]
    exact hline

/-- Nothing is undone where nothing is done. -/
theorem Advances.refl (g : Generator) (s : Session) : Advances g s s :=
  ((Still.refl s).learns g).advances

/-- What is not undone by either of two parts of a run is not undone by both. -/
theorem Advances.trans {g : Generator} {s s' s'' : Session} (h : Advances g s s')
    (h' : Advances g s' s'') : Advances g s s'' :=
  ⟨h.grows.trans h'.grows, h.turns.trans h'.turns, fun hline => h'.registered (h.registered hline),
    h.recalls.trans h'.recalls⟩

/-- An artifact stands at its target after it was generated. If the target turns out to be apart
from the routes file, nothing was undone. -/
theorem generateArtifact_advances {g : Generator} {m : Schema.Metadata} {force : Bool}
    {a : Artifact} {s s' : Session} {o : Outcome} {t : Tree}
    (h : generateArtifact g m force a s = .ok o s') (hgrows : Grows s'.tree t)
    (hapart : Apart t g.settings.routesPath o.artifact.target) :
    Advances g s s' ∧ Files.pathExists a.target s'.tree = .ok true s'.tree := by
  obtain ⟨p, s₁, written, t₁, hproduce, hwrite, htree, hidle, rfl⟩ := generateArtifact_ok h
  obtain ⟨hasked, _, content, htext, _⟩ := produce_ok hproduce
  subst htree
  have htag : Text.startsWith p.text Source.openingTag = true := by
    rw [htext]
    exact Source.startsWith_withHeader content
  have hstep : Advances g s₁ s' := by
    refine ⟨Artifact.write_grows hwrite, Structure.turns_write htag hwrite, ?_,
      Or.inl hidle.entries⟩
    intro line hline
    -- If the target led to the routes file now, it would do so at the end.
    apply hline.write hwrite
    intro x htarget hroutes
    exact hapart x (place?_of_address (hgrows.address htarget))
      (place?_of_address (hgrows.address hroutes))
  exact ⟨(hasked.learns g).advances.trans hstep, Artifact.write_pathExists hwrite⟩

/-- The same for all artifacts of a table. Each is judged by where the files end up. -/
theorem generateArtifacts_advances {g : Generator} {m : Schema.Metadata} {force : Bool}
    {as : List Artifact} {s s' : Session} {os : List Outcome} {t : Tree}
    (h : as.mapM (generateArtifact g m force) s = .ok os s') (hgrows : Grows s'.tree t)
    (hapart : ∀ o ∈ os, Apart t g.settings.routesPath o.artifact.target) :
    Advances g s s' ∧ ∀ a ∈ as, Files.pathExists a.target s'.tree = .ok true s'.tree := by
  refine mapM_backward (R := Advances g)
    (P := fun a s => Files.pathExists a.target s.tree = .ok true s.tree)
    (Advances.refl g) Advances.trans ?_ ?_ h
  · intro a s₁ s₂ hadvances hexists
    exact hadvances.grows.pathExists hexists
  · intro a o s₁ s₂ ho hgenerate hrest
    exact generateArtifact_advances hgenerate (hrest.grows.trans hgrows) (hapart o ho)

/-! ## Settled tables -/

/-- There is nothing left to do for a table. -/
structure Settled (g : Generator) (entries : List Entry) (t : Tree) (table : Text) : Prop where
  artifacts : ∀ {artifacts},
    Artifact.resolve g.settings entries (Naming.classOfTable table) = .ok artifacts →
      ∀ a ∈ artifacts, Files.pathExists a.target t = .ok true t
  route : ∀ {declaration}, declarationOf g table = .ok declaration →
    Registered t g.settings.routesPath (Route.normalize declaration)

/-- A table stays settled in what comes after it. -/
theorem Settled.advances {g : Generator} {entries : List Entry} {s s' : Session} {table : Text}
    (hsettled : Settled g entries s.tree table) (h : Advances g s s') :
    Settled g entries s'.tree table :=
  ⟨fun hresolve a ha => h.grows.pathExists (hsettled.artifacts hresolve a ha),
    fun hfill => h.registered (hsettled.route hfill)⟩

/-- A table is settled after it was generated. -/
theorem generateTable_settles {g : Generator} {force : Bool} {table : Text} {s s' : Session}
    {r : TableReport} {t : Tree} (h : generateTable g force table s = .ok r s')
    (hgrows : Grows s'.tree t)
    (hapart : ∀ o ∈ r.outcomes, Apart t g.settings.routesPath o.artifact.target)
    (hreturn : r.succeeded = true → ReturnFree g r.table) :
    Advances g s s' ∧ (Readable g table →
      ∃ entries, Known g s' entries ∧ Settled g entries s'.tree table) := by
  rcases generateTable_ok h with ⟨columns, s₁, _, hidle, c, rfl⟩ | ⟨hunreadable, hidle, _⟩
  · have hregistered : Advances g c.closed s' :=
      ⟨Route.register_grows c.registered, Structure.turns_register c.registered,
        fun hline => hline.register c.registered, Or.inl c.rests.entries⟩
    obtain ⟨hadvances, hexist⟩ :=
      generateArtifacts_advances c.generated (hregistered.grows.trans hgrows) hapart
    refine ⟨((hidle.learns g).advances.trans c.learns.advances).trans
      (hadvances.trans hregistered), fun _ => ⟨c.entries, ?_, ?_, ?_⟩⟩
    · exact (hadvances.trans hregistered).recalls.known c.known
    · -- The artifacts were written or stood there already, and registering the route left them
      -- there.
      intro artifacts' hresolve' a ha
      rw [← c.className, c.resolved] at hresolve'
      cases hresolve'
      exact hregistered.grows.pathExists (hexist a ha)
    · intro declaration' hfill'
      rw [c.filled] at hfill'
      cases hfill'
      -- A line without carriage returns is read from the file as it was written to it.
      have hfree : CodePoint.char '\r' ∉ c.declaration :=
        hreturn rfl c.declaration (by rw [show c.report.table = table from rfl, c.filled]; rfl)
      exact Route.register_registered c.registered (Route.normalize_no_return hfree)
  · exact ⟨(hidle.learns g).advances, fun hreadable => absurd hreadable hunreadable⟩

/-! ## Generating settled tables -/

/-- An unforced run produces a text for an artifact that stands there, and leaves it. -/
theorem generateArtifact_again {g : Generator} {m : Schema.Metadata} {a : Artifact}
    {s s' : Session} {o : Outcome} (hexists : Files.pathExists a.target s.tree = .ok true s.tree)
    (h : generateArtifact g m false a s = .ok o s') : Still s s' ∧ o.status = .skipped := by
  obtain ⟨p, s₁, written, t₁, hproduce, hwrite, htree, hidle, rfl⟩ := generateArtifact_ok h
  obtain ⟨hasked, _⟩ := produce_ok hproduce
  rw [hasked.tree, Artifact.write_existing p.text hexists] at hwrite
  cases hwrite
  exact ⟨⟨htree, hidle.entries.trans hasked.entries⟩, rfl⟩

/-- Where something stands at every target, an unforced run skips all artifacts and leaves the files
alone. -/
theorem generateArtifacts_again {g : Generator} {m : Schema.Metadata} {as : List Artifact}
    {s s' : Session} {os : List Outcome}
    (hexist : ∀ a ∈ as, Files.pathExists a.target s.tree = .ok true s.tree)
    (h : as.mapM (generateArtifact g m false) s = .ok os s') :
    Still s s' ∧ ∀ o ∈ os, o.status = .skipped := by
  refine mapM_forward (I := Still s) (Q := fun o => o.status = .skipped) ?_ h (Still.refl s)
  intro a o s₁ s₂ ha hstill hgenerate
  have hexists := hexist a ha
  rw [← hstill.tree] at hexists
  obtain ⟨hstill', hskipped⟩ := generateArtifact_again hexists hgenerate
  exact ⟨hstill.trans hstill', hskipped⟩

/-- Nothing happens to the files when a settled table is generated again. -/
theorem generateTable_again {g : Generator} {table : Text} {s s' : Session} {r : TableReport}
    {entries : List Entry} (hknown : Known g s entries)
    (hsettled : Readable g table → Settled g entries s.tree table)
    (h : generateTable g false table s = .ok r s') :
    Learns g s s' ∧ (∀ o ∈ r.outcomes, o.status = .skipped) ∧ r.routeAdded = false := by
  rcases generateTable_ok h with ⟨columns, s₁, hcolumns, hidle, c, rfl⟩ | ⟨_, hidle, _, rfl⟩
  · have hthis := hsettled ⟨columns, hcolumns⟩
    have hlearns := (hidle.learns g).trans c.learns
    have hentries := (hlearns.recalls.known hknown).unique c.known
    have hresolve := c.resolved
    rw [hentries, c.className] at hresolve
    obtain ⟨hstill, hskipped⟩ := generateArtifacts_again (s := c.opened)
      (hlearns.tree ▸ hthis.artifacts hresolve) c.generated
    -- The artifacts left the files alone, so the line is still there.
    have hroute := hthis.route c.filled
    rw [← hlearns.tree, ← hstill.tree] at hroute
    have hregister := c.registered
    rw [hroute.register_eq] at hregister
    injection hregister with hadded htree
    have hclosing : Still c.closed s' := ⟨htree.symm, c.rests.entries⟩
    exact ⟨hlearns.trans ((hstill.trans hclosing).learns g), hskipped, hadded.symm⟩
  · exact ⟨hidle.learns g, nofun, rfl⟩

/-! ## Runs over many tables -/

/-- After a run over some tables, each of them that can be read is settled. What settles one is
shown against the files at the end, as the tables after it may have written, too. -/
theorem generateTables_settle {g : Generator} {force : Bool} {tables : List Text}
    {s s' : Session} {rs : List TableReport}
    (h : generateTables g force tables s = .ok rs s')
    (hapart : ∀ r ∈ rs, ∀ o ∈ r.outcomes,
      Apart s'.tree g.settings.routesPath o.artifact.target)
    (hreturn : ∀ r ∈ rs, r.succeeded = true → ReturnFree g r.table) :
    Advances g s s' ∧ ∀ table ∈ tables, Readable g table →
      ∃ entries, Known g s' entries ∧ Settled g entries s'.tree table := by
  refine mapM_backward (R := Advances g)
    (P := fun table s => Readable g table →
      ∃ entries, Known g s entries ∧ Settled g entries s.tree table)
    (Advances.refl g) Advances.trans ?_ ?_ h
  · intro table s₁ s₂ hadvances hsettled hreadable
    obtain ⟨entries, hknown, hsettled⟩ := hsettled hreadable
    exact ⟨entries, hadvances.recalls.known hknown, hsettled.advances hadvances⟩
  · intro table r s₁ s₂ hr hgenerate hrest
    exact generateTable_settles hgenerate hrest.grows (hapart r hr) (hreturn r hr)

/-- An unforced run over settled tables skips everything, adds no route and changes no file. -/
theorem generateTables_again {g : Generator} {tables : List Text} {s s' : Session}
    {rs : List TableReport} {entries : List Entry} (hknown : Known g s entries)
    (hsettled : ∀ table ∈ tables, Readable g table → Settled g entries s.tree table)
    (h : generateTables g false tables s = .ok rs s') :
    Learns g s s' ∧ ∀ r ∈ rs, (∀ o ∈ r.outcomes, o.status = .skipped) ∧ r.routeAdded = false := by
  refine mapM_forward (I := Learns g s)
    (Q := fun r => (∀ o ∈ r.outcomes, o.status = .skipped) ∧ r.routeAdded = false) ?_ h
    ((Still.refl s).learns g)
  intro table r s₁ s₂ htable hlearns hgenerate
  have hthis := hsettled table htable
  rw [← hlearns.tree] at hthis
  obtain ⟨hlearns', hskipped⟩ := generateTable_again (hlearns.recalls.known hknown) hthis hgenerate
  exact ⟨hlearns.trans hlearns', hskipped⟩

/-- After a run every table that could be read is settled. -/
theorem generate_settles {g : Generator} {tables : List Text} {force : Option Bool}
    {s s' : Session} {r : Report} (h : generate g tables force s = .ok r s')
    (hapart : ∀ t ∈ r.tables, ∀ o ∈ t.outcomes,
      Apart s'.tree g.settings.routesPath o.artifact.target)
    (hreturn : ∀ t ∈ r.tables, t.succeeded = true → ReturnFree g t.table) :
    ∃ entries, Given g s entries ∧ Advances g s s' ∧ Known g s' entries ∧
      r.tables.map subject = tables.map (fun table => (table, artifactsOf g entries table)) ∧
      ∀ table ∈ tables, Readable g table → Settled g entries s'.tree table := by
  obtain ⟨entries, s₁, s₂, hgiven, hlearns, _, hknown, htables, hidle⟩ := generate_ok h
  simp only [hidle.tree] at hapart ⊢
  obtain ⟨hadvances, hsettled⟩ := generateTables_settle htables hapart hreturn
  have hknown₂ : Known g s₂ entries := hadvances.recalls.known hknown
  refine ⟨entries, hgiven, (hlearns.advances.trans hadvances).trans (hidle.learns g).advances,
    hknown₂.of_entries hidle.entries, generateTables_subject hknown htables, ?_⟩
  intro table htable hreadable
  obtain ⟨entries', hknown', hthis⟩ := hsettled table htable hreadable
  obtain rfl := hknown₂.unique hknown'
  exact hthis

/-- A run over settled tables changes nothing. -/
theorem generate_again {g : Generator} {tables : List Text} {s s' : Session} {r : Report}
    {entries : List Entry} (hgiven : ∀ entries', Given g s entries' → entries' = entries)
    (hsettled : ∀ table ∈ tables, Readable g table → Settled g entries s.tree table)
    (h : generate g tables (some false) s = .ok r s') :
    Learns g s s' ∧ Known g s' entries ∧
      r.tables.map subject = tables.map (fun table => (table, artifactsOf g entries table)) ∧
      ∀ t ∈ r.tables, (∀ o ∈ t.outcomes, o.status = .skipped) ∧ t.routeAdded = false := by
  obtain ⟨entries', s₁, s₂, hgiven', hlearns, _, hknown, htables, hidle⟩ := generate_ok h
  obtain rfl := hgiven entries' hgiven'
  rw [← hlearns.tree] at hsettled
  obtain ⟨hlearns₂, hskipped⟩ := generateTables_again hknown hsettled htables
  have hclosing := hlearns₂.trans (hidle.learns g)
  exact ⟨hlearns.trans hclosing, hclosing.recalls.known hknown,
    generateTables_subject hknown htables, hskipped⟩

/-- A later run works with the entries of the earlier one. If it has to read them again, the
structure file can only be the one that was there. -/
theorem Given.again {g : Generator} {s s' later : Session} {entries entries' : List Entry}
    (h : Given g s entries) (hadvances : Advances g s s') (hknown : Known g s' entries)
    (htree : later.tree = s'.tree)
    (hlater : later.entries = s'.entries ∨ (s.entries = none ∧ later.entries = none))
    (h' : Given g later entries') : entries' = entries := by
  -- Known entries are not read again.
  have hsame : Known g later entries → entries' = entries := by
    intro hthere
    rcases h' with hknown' | ⟨path, t, hfile, hnone, _⟩
    · exact hthere.unique hknown'
    · rw [known_of_file hfile, hnone] at hthere
      cases hthere
  rcases hlater with hentries | ⟨hnone, hnone'⟩
  · exact hsame (hknown.of_entries hentries)
  · rcases h with hthere | ⟨path, t, hfile, _, hload⟩
    · exact hsame (hthere.of_entries (hnone'.trans hnone.symm))
    · rcases h' with hknown' | ⟨path', t', hfile', _, hload'⟩
      · rw [known_of_file hfile, hnone'] at hknown'
        cases hknown'
      · rw [hfile] at hfile'
        cases hfile'
        rw [htree] at hload'
        exact Structure.load_stable hadvances.grows hadvances.turns hload hload'

/-- Both runs end with the same entries. -/
theorem entries_again {g : Generator} {s s' later later' : Session} {entries : List Entry}
    (hrecalls : Recalls g s s') (hknown : Known g s' entries) (hrecalls' : Recalls g later later')
    (hknown' : Known g later' entries)
    (hlater : later.entries = s'.entries ∨ (s.entries = none ∧ later.entries = none)) :
    later'.entries = s'.entries := by
  cases hfile : g.settings.structureFile with
  | some path =>
    rw [known_of_file hfile] at hknown hknown'
    rw [hknown, hknown']
  | none =>
    -- Without a file the entries are never set.
    have hsame : ∀ {s s' : Session}, Recalls g s s' → s'.entries = s.entries := by
      intro s s' h
      rcases h with heq | ⟨_, hsome⟩
      · exact heq
      · exact absurd hfile hsome
    rw [hsame hrecalls']
    rcases hlater with hentries | ⟨hnone, hnone'⟩
    · exact hentries
    · rw [hnone', hsame hrecalls, hnone]

/-- A report whose outcomes are all skipped counts no file as written. -/
theorem written_of_skipped {r : Report}
    (h : ∀ t ∈ r.tables, ∀ o ∈ t.outcomes, o.status = .skipped) : r.written = 0 := by
  rw [Report.written_eq]
  apply List.countP_eq_zero.mpr
  intro o ho
  obtain ⟨t, ht, ho⟩ := List.mem_flatMap.mp ho
  rw [h t ht o ho]
  exact Bool.false_ne_true

/-- Running again is doing nothing. After a run that returned and had its artifacts apart from the
routes file and no carriage returns in its route declarations, an unforced run over the same
tables leaves the files as they are, whatever the backend answers; it reports on the same
artifacts of every table, has skipped each of them, added no route and written nothing. The later
run may have the entries of the earlier one or, if that began without any, begin without any too;
it ends with the same entries, so that what holds of it holds of any run after it. -/
theorem generate_again_unchanged {g : Generator} {tables : List Text} {force : Option Bool}
    {s s' : Session} {r : Report} (h : generate g tables force s = .ok r s')
    (hapart : ∀ t ∈ r.tables, ∀ o ∈ t.outcomes,
      Apart s'.tree g.settings.routesPath o.artifact.target)
    (hreturn : ∀ t ∈ r.tables, t.succeeded = true → ReturnFree g t.table)
    (backend : Backend) (network : Inference.Network) (clock : Nat → Float)
    {later later' : Session} {r' : Report} (htree : later.tree = s'.tree)
    (hlater : later.entries = s'.entries ∨ (s.entries = none ∧ later.entries = none))
    (h' : generate { g with backend, network, clock } tables (some false) later =
      .ok r' later') :
    later'.tree = later.tree ∧ later'.entries = s'.entries ∧
      r'.tables.map TableReport.table = tables ∧
      r'.tables.map subject = r.tables.map subject ∧
      (∀ t ∈ r'.tables, (∀ o ∈ t.outcomes, o.status = .skipped) ∧ t.routeAdded = false) ∧
      r'.written = 0 := by
  obtain ⟨entries, hgiven, hfirst, hknown, hsubjects, hsettled⟩ := generate_settles h hapart hreturn
  -- Neither the entries nor what is left to do depends on the backend.
  have hgiven' : ∀ entries', Given { g with backend, network, clock } later entries' →
      entries' = entries := by
    intro entries' hthere
    exact Given.again (g := g) hgiven hfirst hknown htree hlater hthere
  have hsettled' : ∀ table ∈ tables, Readable { g with backend, network, clock } table →
      Settled { g with backend, network, clock } entries later.tree table := by
    intro table htable hreadable
    have hthis := hsettled table htable hreadable
    rw [htree]
    exact ⟨hthis.artifacts, hthis.route⟩
  obtain ⟨hsecond, hknown', hsubjects', hskipped⟩ := generate_again hgiven' hsettled' h'
  refine ⟨hsecond.tree, ?_, ?_, hsubjects'.trans hsubjects.symm, hskipped,
    written_of_skipped fun t ht => (hskipped t ht).1⟩
  · exact entries_again (g := g) hfirst.recalls hknown hsecond.recalls hknown' hlater
  · have hnames := congrArg (List.map Prod.fst) hsubjects'
    rw [List.map_map, List.map_map] at hnames
    exact hnames.trans (List.map_id' tables)

/-- The second run over a new file finds it, though no backend answers any more. -/
theorem generate_again_unchanged_users :
    let answer : Text := "class UserNote \x7b\x7d"
    let structureText : Text := "\x7b\"artifacts\": [\x7b\"type\": \"note\"\x7d]\x7d"
    let g : Generator :=
      { settings := { structureFile := some (Path.ofText "structure.json") }
        backend := .custom "fixed" fun _ _ => answer
        catalog :=
          { tables := [("users", { columns := [{ name := "id", type := .written "INTEGER" }] })] }
        network := .unreachable, clock := fun reading => -Float.ofNat reading
        bundledStubs := ⟨.here, []⟩ }
    let file : Files.Node := .file ((Utf8.encode structureText).toOption.getD [])
    let s : Session := { tree := { workingDirectory := [], entries := [(["structure.json"], file)] } }
    ∃ r s' r' later', generate g ["users"] (some true) s = .ok r s' ∧ r.written = 1 ∧
      generate { g with backend := .none } ["users"] (some false) { tree := s'.tree } =
        .ok r' later' ∧
      later'.tree = s'.tree ∧ r'.written = 0 := by
  intro answer structureText g file s
  have hruns : passes (generate g ["users"] (some true)) (fun r s' =>
      decide ((∀ t ∈ r.tables, ∀ o ∈ t.outcomes,
          Apart s'.tree g.settings.routesPath o.artifact.target) ∧
        (∀ t ∈ r.tables, t.succeeded = true → ReturnFree g t.table) ∧ r.written = 1) &&
      passes (generate { g with backend := .none } ["users"] (some false)) (fun _ _ => true)
        { tree := s'.tree }) s = true := by
    decide +kernel
  obtain ⟨r, s', hrun, htests⟩ := ok_of_passes hruns
  obtain ⟨hfirst, hlater⟩ := Bool.and_eq_true_iff.mp htests
  obtain ⟨hapart, hreturn, hwritten⟩ := of_decide_eq_true hfirst
  obtain ⟨r', later', hrerun, _⟩ := ok_of_passes hlater
  obtain ⟨htree, _, _, _, _, hnothing⟩ := generate_again_unchanged hrun hapart hreturn .none g.network
    g.clock (show ({ tree := s'.tree } : Session).tree = s'.tree from rfl)
    (Or.inr ⟨rfl, rfl⟩) hrerun
  exact ⟨r, s', r', later', hrun, hwritten, hrerun, htree, hnothing⟩

end Scaffold.Run
