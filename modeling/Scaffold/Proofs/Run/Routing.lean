import Scaffold.Proofs.Artifact.Standard
import Scaffold.Proofs.Distinct
import Scaffold.Proofs.Files.Confined
import Scaffold.Proofs.Routes.Declaration
import Scaffold.Proofs.Run.Batch

/-!
# Every table gets its route

With the standard settings, and tables with names in ASCII, a run that starts without a routes file
leaves one that lists every table that can be read once, in the order in which the tables come up
first (`generate_lists_routes`). A table is registered by looking for its line in the whole file,
so this rests on two facts.

* Artifacts are written elsewhere: no file of the application's directories is the routes file
  (`Artifact.target_ne_routes`), so between two registrations the file is as it was.
* No route is mistaken for a part of another (`routeOf_part`), although one name may be a part of
  another as in `users`, `users2` and `app_users`: the quotes around a name belong to the line.

After each table the file lists the tables so far (`Routed`), and a run is an induction over that.

That there is no routes file has to mean two things (`Unrouted`). The path leads to nothing; and
once more directories are there it does not lead to a file that was there all along. The second can
fail only where the base directory is missing and has a `..` behind a missing part
(`unrouted_of_absent`). Then the artifacts of the first table open the way to an old file, and the
lines are added to that (`generate_adds_to_old_routes`).

Nothing is said about a routes file that is there from the start; what is added to that is told by
`Route.Listed.register`, and for runs by `generate_perm`.
-/

namespace Scaffold.Run

open Files (Detours Grows Tree address content?_eq_some_iff destination_eq destination_of_address)
open Program (mapM_along mapM_forward mapM_members ok_of_passes passes)
open Route (Line Listed apiRoute listing)

/-! ## Tables with the standard settings -/

/-- The route of a table by the default template. -/
def routeOf (table : Text) : Text := apiRoute table (Naming.classOfTable table)

/-- The route of a table is a line: without a line feed, and ended by its semicolon. -/
theorem line_routeOf {table : Text} (h : TableName table) : Line (routeOf table) :=
  Route.line_apiRoute h (Naming.plain_classOfTable h)

theorem lines_routeOf {tables : List Text} (h : ∀ table ∈ tables, TableName table) :
    ∀ line ∈ tables.map routeOf, Line line := by
  intro line hline
  obtain ⟨table, htable, rfl⟩ := List.mem_map.mp hline
  exact line_routeOf (h table htable)

/-- A route is registered as it is declared. -/
theorem normalize_routeOf (table : Text) : Route.normalize (routeOf table) = routeOf table :=
  Route.normalize_apiRoute _ _

/-- No route is a part of the route of another table. -/
theorem routeOf_part {table table' : Text} (h : TableName table) (h' : TableName table')
    (hpart : routeOf table <:+: routeOf table') : table = table' :=
  Route.infix_apiRoute h h' (Naming.plain_classOfTable h') hpart

/-- Registering the route of a table adds it to a file that lists tables, if it was neither held
before nor added since. -/
theorem register_routeOf {path : Files.Path} {t t' : Tree} {old : Option Utf8.Bytes}
    {tables : List Text} {table : Text} {added : Bool}
    (h : Listed t (t.destination path) old (tables.map routeOf))
    (hnames : ∀ table' ∈ tables, TableName table') (hname : TableName table)
    (hdetour : (t.content? (t.destination path)).isSome = true →
      ¬ Detours t path (t.destination path))
    (hregister : Route.register path (routeOf table) t = .ok added t') :
    address path t' = .ok (t.destination path) t' ∧
      (added = true ↔ ¬ routeOf table <:+: Route.groundText old ∧ table ∉ tables) ∧
      Listed t' (t.destination path) old
        ((if added = true then tables ++ [table] else tables).map routeOf) := by
  have hnormal := normalize_routeOf table
  have hpart : ∀ l ∈ tables.map routeOf, routeOf table <:+: l → routeOf table = l := by
    intro l hl hinfix
    obtain ⟨table', htable', rfl⟩ := List.mem_map.mp hl
    rw [routeOf_part hname (hnames table' htable') hinfix]
  obtain ⟨hleads, hadded, hlisted⟩ := h.register hregister
    (by rw [hnormal]; exact line_routeOf hname) (lines_routeOf hnames)
    (by rw [hnormal]; exact hpart) hdetour
  rw [hnormal] at hadded hlisted
  -- Only its own route lists the table.
  have hmember : routeOf table ∈ tables.map routeOf ↔ table ∈ tables := by
    refine ⟨fun hmem => ?_, List.mem_map_of_mem⟩
    obtain ⟨table', htable', heq⟩ := List.mem_map.mp hmem
    rw [routeOf_part hname (hnames table' htable') (heq ▸ List.infix_refl _)]
    exact htable'
  rw [hmember] at hadded
  refine ⟨hleads, hadded, ?_⟩
  split at hlisted
  next htrue =>
    rw [if_pos htrue, List.map_append]
    exact hlisted
  next hfalse =>
    rw [if_neg hfalse]
    exact hlisted

/-- With the standard settings a table has the built-in artifacts of its class and its default
route. -/
theorem Course.standard {g : Generator} {force : Bool} {table : Text}
    {columns : List Schema.Column} {s s' : Session} (c : Course g force table columns s s')
    (hs : g.settings.Standard) :
    c.artifacts = Kind.builtin.map (Artifact.standard g.settings (Naming.classOfTable table)) ∧
      c.declaration = routeOf table := by
  constructor
  · have hresolved := c.resolved
    rw [(known_of_no_file hs.structureFile).mp c.known, c.className, Artifact.resolve_default]
      at hresolved
    exact (Except.ok.inj hresolved).symm
  · have hfilled := c.filled
    unfold declarationOf at hfilled
    rw [hs.routeTemplate, Route.fill_default] at hfilled
    exact (Except.ok.inj hfilled).symm

section

variable {g : Generator} {m : Schema.Metadata} {force : Bool} {as : List Artifact}
  {s s' : Session} {os : List Outcome}

/-- All that generating an artifact does to the files is to write it. -/
theorem generateArtifact_writes {a : Artifact} {o : Outcome}
    (h : generateArtifact g m force a s = .ok o s') :
    ∃ text written, Artifact.write a.target text force s.tree = .ok written s'.tree := by
  obtain ⟨p, s₁, written, t, hproduce, hwrite, htree, _⟩ := generateArtifact_ok h
  obtain ⟨hasked, _⟩ := produce_ok hproduce
  rw [hasked.tree] at hwrite
  exact ⟨p.text, written, htree ▸ hwrite⟩

/-- Artifacts take nothing away from the files. -/
theorem generateArtifacts_grows (h : as.mapM (generateArtifact g m force) s = .ok os s') :
    Grows s.tree s'.tree := by
  refine (mapM_forward (I := fun s₁ => Grows s.tree s₁.tree) (Q := fun _ => True) ?_ h
    (Grows.refl _)).1
  intro a o s₁ s₂ _ hgrows hgenerate
  obtain ⟨text, written, hwrite⟩ := generateArtifact_writes hgenerate
  exact ⟨hgrows.trans (Artifact.write_grows hwrite), trivial⟩

/-- Where nothing is registered, the routes file is as it was: artifacts are written elsewhere. -/
theorem generateArtifacts_content? {x : Files.Address}
    (h : as.mapM (generateArtifact g m force) s = .ok os s')
    (hx : ∀ a ∈ as, s.tree.destination a.target ≠ x) : s'.tree.content? x = s.tree.content? x := by
  refine (mapM_forward (Q := fun _ => True)
    (I := fun s₁ => s₁.tree.workingDirectory = s.tree.workingDirectory ∧
      s₁.tree.content? x = s.tree.content? x) ?_ h ⟨rfl, rfl⟩).1.2
  intro a o s₁ s₂ ha ⟨hdirectory, hsame⟩ hgenerate
  obtain ⟨text, written, hwrite⟩ := generateArtifact_writes hgenerate
  have hne : s₁.tree.destination a.target ≠ x := by
    rw [destination_eq hdirectory]
    exact hx a ha
  exact ⟨⟨(Artifact.write_grows hwrite).workingDirectory.trans hdirectory,
    (Artifact.write_content? hwrite hne).trans hsame⟩, trivial⟩

end

/-! ## Without a routes file -/

/-- There is no routes file. The path leads to nothing; and to whatever the files grow, it does not
lead to a file that is there already. -/
structure Unrouted (g : Generator) (t : Tree) : Prop where
  absent : Files.pathExists g.settings.routesPath t = .ok false t
  unmet : ∀ {t' x}, Grows t t' → address g.settings.routesPath t' = .ok x t' →
    t.content? x = none

/-- There is no routes file if its path leads to nothing, and the base directory has no `..` or is
there. -/
theorem unrouted_of_absent {g : Generator} {t : Tree} (hs : g.settings.Standard)
    (hrooted : Files.Rooted t)
    (hbase : Text.ofString ".." ∉ g.settings.baseDirectory.segments ∨
      Files.isDirectory g.settings.baseDirectory t = .ok true t)
    (habsent : Files.pathExists g.settings.routesPath t = .ok false t) : Unrouted g t := by
  have hsteady : Files.Steady t g.settings.routesPath := by
    rcases hbase with hdown | hthere
    · exact Files.Connected.steady hrooted.connected (Artifact.routesPath_down hs hdown)
    · rw [Artifact.routesPath_standard hs]
      exact Files.Connected.steady_below hrooted.connected hthere (by decide) (by decide)
  refine ⟨habsent, fun {t' x} hgrows hx => ?_⟩
  cases hcontent : t.content? x with
  | none => rfl
  | some content =>
    -- The path would have led to the file from the start.
    have hfile := content?_eq_some_iff.mp hcontent
    have hleads := hsteady hgrows hx (by rw [hfile]; rfl)
    rw [Files.pathExists_of_address hleads, hfile] at habsent
    cases habsent

/-- Generating a table that can be read ends with a path that leads to the routes file. -/
theorem generateTable_leads {g : Generator} {force : Bool} {table : Text} {s s' : Session}
    {r : TableReport} (h : generateTable g force table s = .ok r s') :
    Grows s.tree s'.tree ∧
      (Readable g table → ∃ x, address g.settings.routesPath s'.tree = .ok x s'.tree) := by
  rcases generateTable_ok h with ⟨columns, s₁, _, hidle, c, _⟩ | ⟨hunreadable, hidle, _⟩
  · have hopened : c.opened.tree = s.tree := c.learns.tree.trans hidle.tree
    have hgrows := (generateArtifacts_grows c.generated).trans (Route.register_grows c.registered)
    rw [hopened] at hgrows
    exact ⟨hgrows, fun _ => Route.register_leads c.registered⟩
  · rw [hidle.tree]
    exact ⟨Grows.refl _, fun hreadable => absurd hreadable hunreadable⟩

/-- So where there is no routes file, its place is free if any of the tables can be read. -/
theorem Unrouted.free {g : Generator} {force : Bool} {tables : List Text} {s s' : Session}
    {rs : List TableReport} (h : Unrouted g s.tree)
    (hrun : generateTables g force tables s = .ok rs s') {table : Text} (hmem : table ∈ tables)
    (hreadable : Readable g table) :
    s.tree.content? (s.tree.destination g.settings.routesPath) = none := by
  refine mapM_members (I := fun s₁ => Grows s.tree s₁.tree)
    (P := fun table => Readable g table →
      s.tree.content? (s.tree.destination g.settings.routesPath) = none)
    ?_ hrun (Grows.refl _) table hmem hreadable
  intro table r s₁ s₂ hgrows hgenerate
  obtain ⟨hgrows', hleads⟩ := generateTable_leads hgenerate
  refine ⟨hgrows.trans hgrows', fun hreadable => ?_⟩
  obtain ⟨x, hx⟩ := hleads hreadable
  rw [← destination_eq (hgrows.trans hgrows').workingDirectory, ← destination_of_address hx]
  exact h.unmet (hgrows.trans hgrows') hx

/-! ## The routes file after some tables -/

/-- The tables that can be read, each at its first place. -/
def routedTables (g : Generator) (tables : List Text) : List Text :=
  distinct (tables.filter fun table => Readable g table)

/-- A further table is listed if it can be read and was not there before. -/
theorem routedTables_concat (g : Generator) (tables : List Text) (table : Text) :
    routedTables g (tables ++ [table]) =
      if Readable g table ∧ table ∉ tables then routedTables g tables ++ [table]
      else routedTables g tables := by
  unfold routedTables
  rw [List.filter_append]
  by_cases hreadable : Readable g table
  · have hone : ([table].filter fun table => decide (Readable g table)) = [table] := by
      simp [hreadable]
    rw [hone, distinct_concat]
    by_cases hmem : table ∈ tables
    · rw [if_pos (List.mem_filter.mpr ⟨hmem, decide_eq_true hreadable⟩),
        if_neg fun hboth => hboth.2 hmem]
    · rw [if_neg fun hboth => hmem (List.mem_filter.mp hboth).1, if_pos ⟨hreadable, hmem⟩]
  · have hnone : ([table].filter fun table => decide (Readable g table)) = [] := by
      simp [hreadable]
    rw [hnone, List.append_nil, if_neg fun hboth => hreadable hboth.1]

/-- The routes file lists tables, and its path leads to it if there are any. -/
structure Routed (g : Generator) (t₀ : Tree) (tables : List Text) (t : Tree) : Prop where
  workingDirectory : t.workingDirectory = t₀.workingDirectory
  listed : Listed t (t₀.destination g.settings.routesPath) none
    ((routedTables g tables).map routeOf)
  leads : routedTables g tables ≠ [] →
    address g.settings.routesPath t = .ok (t₀.destination g.settings.routesPath) t

/-- The tables with a route are those in the list that can be read. -/
theorem mem_routedTables {g : Generator} {tables : List Text} {table : Text} :
    table ∈ routedTables g tables ↔ table ∈ tables ∧ Readable g table := by
  unfold routedTables
  rw [mem_distinct, List.mem_filter, decide_eq_true_iff]

section

variable {g : Generator} {force : Bool} {t₀ : Tree} {tables : List Text} {table : Text}
  {s s' : Session} {r : TableReport}

/-- What leaves the routes file alone keeps its list. -/
theorem Routed.congr {t t' : Tree} (h : Routed g t₀ tables t) (hgrows : Grows t t')
    (hsame : t'.content? (t₀.destination g.settings.routesPath) =
      t.content? (t₀.destination g.settings.routesPath)) : Routed g t₀ tables t' :=
  ⟨hgrows.workingDirectory.trans h.workingDirectory, h.listed.congr hsame,
    fun hne => hgrows.address (h.leads hne)⟩

/-- A file that lists tables is not come upon on a detour. -/
theorem Routed.no_detour {t : Tree} (h : Routed g t₀ tables t)
    (hfile : (t.content? (t₀.destination g.settings.routesPath)).isSome = true) :
    ¬ Detours t g.settings.routesPath (t₀.destination g.settings.routesPath) := by
  rintro ⟨hmissing, _⟩
  have hne : routedTables g tables ≠ [] := by
    intro hnone
    have hcontent := h.listed.content
    rw [hnone] at hcontent
    rw [hcontent] at hfile
    cases hfile
  obtain ⟨content, hcontent⟩ := Option.isSome_iff_exists.mp hfile
  rw [Files.pathExists_of_address (h.leads hne), content?_eq_some_iff.mp hcontent] at hmissing
  cases hmissing

/-- Registering the route of a table lists it, if it was not there before. -/
theorem Routed.register {t t' : Tree} {added : Bool} (h : Routed g t₀ tables t)
    (hnames : ∀ table' ∈ tables, TableName table') (hname : TableName table)
    (hreadable : Readable g table)
    (hregister : Route.register g.settings.routesPath (routeOf table) t = .ok added t') :
    Routed g t₀ (tables ++ [table]) t' ∧ (added = true ↔ table ∉ tables) := by
  have hplace := destination_eq h.workingDirectory g.settings.routesPath
  have hlisted := h.listed
  have hdetour := h.no_detour
  rw [← hplace] at hlisted hdetour
  obtain ⟨hleads, hadded, hlisted'⟩ := register_routeOf hlisted
    (fun table' h' => hnames table' (mem_routedTables.mp h').1) hname hdetour hregister
  rw [hplace] at hleads hlisted'
  have hlacks := Route.groundText_none_lacks (routeOf table)
  rw [normalize_routeOf] at hlacks
  have hiff : added = true ↔ table ∉ tables := by
    rw [hadded, and_iff_right hlacks, mem_routedTables, and_iff_left hreadable]
  have hlist : routedTables g (tables ++ [table]) =
      if added = true then routedTables g tables ++ [table] else routedTables g tables := by
    rw [routedTables_concat]
    simp only [hiff, hreadable, true_and]
  have hdirectory := (Route.register_grows hregister).workingDirectory
  rw [← hlist] at hlisted'
  exact ⟨⟨hdirectory.trans h.workingDirectory, hlisted', fun _ => hleads⟩, hiff⟩

/-- What generating one more table does to the routes file. -/
theorem generateTable_routed (hs : g.settings.Standard)
    (hnames : ∀ table' ∈ tables, TableName table') (hname : TableName table)
    (hrouted : Routed g t₀ tables s.tree) (h : generateTable g force table s = .ok r s') :
    Routed g t₀ (tables ++ [table]) s'.tree ∧
      (r.routeAdded = true ↔ Readable g table ∧ table ∉ tables) := by
  rcases generateTable_ok h with ⟨columns, s₁, hcolumns, hidle, c, rfl⟩ |
    ⟨hunreadable, hidle, error, rfl⟩
  · have hreadable : Readable g table := ⟨columns, hcolumns⟩
    obtain ⟨hartifacts, hdeclaration⟩ := c.standard hs
    have hopened : Routed g t₀ tables c.opened.tree := by
      rw [c.learns.tree, hidle.tree]
      exact hrouted
    -- No artifact is written over the routes file, so it lists the same when the route is
    -- registered.
    have helsewhere : ∀ a ∈ c.artifacts, c.opened.tree.destination a.target ≠
        t₀.destination g.settings.routesPath := by
      rw [hartifacts, ← destination_eq hopened.workingDirectory]
      intro a ha
      obtain ⟨kind, hkind, rfl⟩ := List.mem_map.mp ha
      exact Artifact.target_ne_routes hs hkind (Naming.plain_classOfTable hname) _
    have hclosed := hopened.congr (generateArtifacts_grows c.generated)
      (generateArtifacts_content? c.generated helsewhere)
    have hregister := c.registered
    rw [hdeclaration] at hregister
    obtain ⟨hrouted', hadded⟩ := hclosed.register hnames hname hreadable hregister
    exact ⟨hrouted', hadded.trans (and_iff_right hreadable).symm⟩
  · refine ⟨?_, nofun, fun hboth => absurd hboth.1 hunreadable⟩
    rw [hidle.tree]
    refine ⟨hrouted.workingDirectory, ?_, ?_⟩
    all_goals rw [routedTables_concat, if_neg fun hboth => hunreadable hboth.1]
    · exact hrouted.listed
    · exact hrouted.leads

end

/-! ## Whole runs -/

/-- A list of routes is spelled out line by line. -/
theorem listing_routes (tables : List Text) :
    listing (tables.map routeOf) =
      tables.flatMap fun table => Text.concat ["\n", routeOf table, "\n"] := by
  unfold listing
  rw [List.flatMap_map]
  simp [Text.concat, Text.ofString]

/-- Nothing happens to the files if no table can be read, and no route is added. -/
theorem generateTables_unreadable {g : Generator} {force : Bool} {tables : List Text}
    {s s' : Session} {rs : List TableReport} (hnone : ∀ table ∈ tables, ¬ Readable g table)
    (h : generateTables g force tables s = .ok rs s') :
    s'.tree = s.tree ∧ ∀ r ∈ rs, r.routeAdded = false := by
  refine mapM_forward (I := fun s₁ => s₁.tree = s.tree) ?_ h rfl
  intro table r s₁ s₂ htable hsame hgenerate
  rcases generateTable_ok hgenerate with ⟨columns, _, hcolumns, _⟩ | ⟨_, hidle, _, rfl⟩
  · exact absurd ⟨columns, hcolumns⟩ (hnone table htable)
  · exact ⟨hidle.tree.trans hsame, rfl⟩

/-- The tables that can be read are listed in a routes file whose place was free. -/
theorem generateTables_routed {g : Generator} {force : Bool} {tables : List Text}
    {s s' : Session} {rs : List TableReport} (hs : g.settings.Standard)
    (hnames : ∀ table ∈ tables, TableName table)
    (hfree : s.tree.content? (s.tree.destination g.settings.routesPath) = none)
    (h : generateTables g force tables s = .ok rs s') :
    Routed g s.tree tables s'.tree ∧
    ∀ i table t, tables[i]? = some table → rs[i]? = some t →
      (t.routeAdded = true ↔ Readable g table ∧ table ∉ tables.take i) := by
  have hstart : Routed g s.tree [] s.tree :=
    ⟨rfl, hfree ▸ Listed.nil _ _, fun hne => absurd rfl hne⟩
  have hstep : ∀ {done : List Text} {table rest t s₁ s₂}, tables = done ++ table :: rest →
      Routed g s.tree done s₁.tree → generateTable g force table s₁ = .ok t s₂ →
        Routed g s.tree (done ++ [table]) s₂.tree ∧
          (t.routeAdded = true ↔ Readable g table ∧ table ∉ done) := by
    rintro done table rest t s₁ s₂ rfl hrouted hgenerate
    exact generateTable_routed hs (fun table' h' => hnames table' (List.mem_append_left _ h'))
      (hnames table (by simp)) hrouted hgenerate
  obtain ⟨hend, _, hflags⟩ := mapM_along (I := fun done s' => Routed g s.tree done s'.tree)
    (Q := fun done table t => t.routeAdded = true ↔ Readable g table ∧ table ∉ done)
    hstep h hstart
  exact ⟨hend, hflags⟩

/-- Every table that can be read gets one route. With the standard settings and names in ASCII, let
there be no routes file (`Unrouted`). If the run returns and no table can be read, it has left the
files alone, and there is still nothing at the path. Otherwise the path leads to a file that holds
its first lines and then, for each table that can be read, one line between line feeds, in the order
of the first places of the tables. A route is reported as added exactly at those first places. -/
theorem generate_lists_routes {g : Generator} {tables : List Text} {force : Option Bool}
    {s s' : Session} {r : Report} (hs : g.settings.Standard)
    (hnames : ∀ table ∈ tables, TableName table) (hunrouted : Unrouted g s.tree)
    (h : generate g tables force s = .ok r s') :
    ((∀ table ∈ tables, ¬ Readable g table) → s'.tree = s.tree ∧
      Files.pathExists g.settings.routesPath s'.tree = .ok false s'.tree) ∧
    ((∃ table ∈ tables, Readable g table) →
      address g.settings.routesPath s'.tree =
          .ok (s.tree.destination g.settings.routesPath) s'.tree ∧
        ∃ content, Utf8.encode (Route.fileHeader ++ (routedTables g tables).flatMap fun table =>
            Text.concat ["\n", routeOf table, "\n"]) = .ok content ∧
          s'.tree.node? (s.tree.destination g.settings.routesPath) = some (.file content)) ∧
    r.tables.map TableReport.table = tables ∧
    ∀ i table t, tables[i]? = some table → r.tables[i]? = some t →
      (t.routeAdded = true ↔ Readable g table ∧ table ∉ tables.take i) := by
  obtain ⟨entries, s₁, s₂, _, hlearns, _, hknown, htables, hidle⟩ := generate_ok h
  have hreports := congrArg (List.map Prod.fst) (generateTables_subject hknown htables)
  rw [List.map_map, List.map_map] at hreports
  -- Before the first table nothing has happened to the files.
  rw [← hlearns.tree] at hunrouted ⊢
  refine ⟨fun hnone => ?_, fun hsome => ?_, hreports.trans (List.map_id' tables), ?_⟩
  · obtain ⟨hsame, _⟩ := generateTables_unreadable hnone htables
    rw [hidle.tree, hsame]
    exact ⟨rfl, hunrouted.absent⟩
  · obtain ⟨table, htable, hreadable⟩ := hsome
    obtain ⟨hend, _⟩ :=
      generateTables_routed hs hnames (hunrouted.free htables htable hreadable) htables
    have hne : routedTables g tables ≠ [] :=
      List.ne_nil_of_mem (mem_routedTables.mpr ⟨htable, hreadable⟩)
    have hcontent := hend.listed.content
    unfold Route.listed at hcontent
    rw [if_neg (fun hnil => hne (List.map_eq_nil_iff.mp hnil))] at hcontent
    rw [hidle.tree]
    refine ⟨hend.leads hne, ?_⟩
    have hlines : ∀ line ∈ (routedTables g tables).map routeOf, Line line :=
      lines_routeOf fun table' h' => hnames table' (mem_routedTables.mp h').1
    rw [← listing_routes]
    exact ⟨_, Route.encode_listing hlines, content?_eq_some_iff.mp hcontent⟩
  · -- If no table can be read, there is nothing to tell the flags from but the reports.
    intro i table t htable ht
    by_cases hsome : ∃ table ∈ tables, Readable g table
    · obtain ⟨table', htable', hreadable⟩ := hsome
      exact (generateTables_routed hs hnames (hunrouted.free htables htable' hreadable)
        htables).2 i table t htable ht
    · have hnone : ∀ table ∈ tables, ¬ Readable g table := fun table htable hreadable =>
        hsome ⟨table, htable, hreadable⟩
      rw [(generateTables_unreadable hnone htables).2 t (List.mem_of_getElem? ht)]
      exact ⟨nofun, fun hboth => absurd hboth.1 (hnone table (List.mem_of_getElem? htable))⟩

/-- A generator with the standard settings, for tables with a single column each, whose backend
always declares the built-in artifacts of some classes. -/
def standardGenerator (tables classes : List Text) : Generator where
  settings := {}
  backend := .custom "fixed" fun _ _ => Text.join " " (classes.flatMap fun className =>
    Kind.builtin.map fun kind =>
      Text.concat ["class ", className, Artifact.suffixOf kind, " \x7b\x7d"])
  catalog :=
    { tables := tables.map fun table =>
        (table, { columns := [{ name := "id", type := .written "INTEGER" }] }) }
  network := .unreachable
  clock := fun reading => -Float.ofNat reading
  bundledStubs := ⟨.here, []⟩

/-- A table that comes up twice is listed once, and one that is not there is not listed. -/
theorem generate_lists_routes_users :
    let tables : List Text := ["users", "ghosts", "users"]
    let g := standardGenerator ["users"] ["User"]
    let s : Session := { tree := { workingDirectory := [], entries := [] } }
    ∃ r s', generate g tables none s = .ok r s' ∧
      r.tables.map TableReport.routeAdded = [true, false, false] ∧
      ∃ content, Utf8.encode (Text.concat ["<?php\n\n",
          "\nRoute::apiResource('users', 'UserController');\n"]) = .ok content ∧
        s'.tree.node? ["routes", "api.php"] = some (.file content) := by
  intro tables g s
  have hruns : passes (generate g tables none)
      (fun r _ => r.tables.map TableReport.routeAdded = [true, false, false]) s = true := by
    decide +kernel
  obtain ⟨r, s', hrun, hflags⟩ := ok_of_passes hruns
  have hunrouted : Unrouted g s.tree :=
    unrouted_of_absent ⟨rfl, rfl, rfl, rfl⟩ (Files.rooted_of_entries nofun rfl)
      (Or.inl (by decide)) rfl
  obtain ⟨_, hlists, _⟩ :=
    generate_lists_routes ⟨rfl, rfl, rfl, rfl⟩ (by decide +kernel) hunrouted hrun
  obtain ⟨_, content, hcontent, hfile⟩ := hlists ⟨"users", by decide +kernel, by decide +kernel⟩
  have htext : (Route.fileHeader ++ (routedTables g tables).flatMap fun table =>
      Text.concat ["\n", routeOf table, "\n"]) = Text.concat ["<?php\n\n",
        "\nRoute::apiResource('users', 'UserController');\n"] := by
    decide +kernel
  rw [htext] at hcontent
  exact ⟨r, s', hrun, of_decide_eq_true hflags, content, hcontent, hfile⟩

/-- Where the base directory has a `..` behind a part that is missing, nothing is found at the path
of the routes file. The artifacts of the first table make that part, and then the path leads to an
old file that was there all along. It keeps what it holds and gets the line. -/
theorem generate_adds_to_old_routes :
    let tables : List Text := ["users"]
    let g := { standardGenerator tables ["User"] with
      settings := { baseDirectory := Files.Path.ofText "missing/.." } }
    let s : Session :=
      { tree :=
          { workingDirectory := []
            entries := [(["routes"], .directory), (["routes", "api.php"], textFile "old")] } }
    g.settings.Standard ∧ Files.Rooted s.tree ∧ (∀ table ∈ tables, TableName table) ∧
      Files.pathExists g.settings.routesPath s.tree = .ok false s.tree ∧
      ∃ r s', generate g tables none s = .ok r s' ∧
        place? s'.tree g.settings.routesPath = some (["routes", "api.php"] : List Text) ∧
        s'.tree.node? ["routes", "api.php"] =
          some (textFile "old\nRoute::apiResource('users', 'UserController');\n") ∧
        s'.tree.node? ["routes", "api.php"] ≠
          some (textFile "<?php\n\n\nRoute::apiResource('users', 'UserController');\n") := by
  intro tables g s
  have hruns : passes (generate g tables none)
      (fun _ s' =>
        place? s'.tree g.settings.routesPath = some (["routes", "api.php"] : List Text) ∧
        s'.tree.node? ["routes", "api.php"] =
          some (textFile "old\nRoute::apiResource('users', 'UserController');\n")) s = true := by
    decide +kernel
  obtain ⟨r, s', hrun, hpassed⟩ := ok_of_passes hruns
  obtain ⟨hleads, hfile⟩ := of_decide_eq_true hpassed
  refine ⟨⟨rfl, rfl, rfl, rfl⟩, Files.rooted_of_entries (by decide +kernel) rfl,
    by decide +kernel, rfl, r, s', hrun, hleads, hfile, ?_⟩
  rw [hfile]
  decide +kernel

end Scaffold.Run
