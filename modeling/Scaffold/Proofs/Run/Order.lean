import Scaffold.Proofs.Run.Foretold

/-!
# The order of the tables

With the standard settings, a backend whose replies depend on the prompts alone and tables of
different classes, a run comes to the same in whatever order the tables are listed
(`generate_perm`): every table has the same report, all files but the routes file are the same, and
the routes file has the same lines added. For after every table that was generated, the files are
told by those at the start (`Foreseen`), and nothing in that depends on an order but the routes.

The proof compares neither run with the other. Each is compared with what is foretold from the files
at the start: the report of a table (`Generator.foretold`), what stands at its sites afterwards, and
whether its route is added. One table is taken at a time (`generateTable_foreseen`), and the list is
gone through by induction, with what is foreseen of the tables so far. That the two runs agree then
follows from `List.Perm` alone, but for the routes file, which has the lines in the order of the
tables.

The two runs may be timed by different clocks. They must start from the same files. What the
conditions `Orderly` exclude is told where they are defined; the last of them, that stubs are found
from the start, cannot be dropped (`generate_perm_detoured`): with the stubs beyond a directory that
the first table makes, the first table is generated without stubs and all others with them, and it
matters which table is first.
-/

namespace Scaffold.Run

open Files (Address Built Confined Tree content?_eq_some_iff)
open Program (mapM_along_map ok_of_passes passes result)
open Route (Listed)

/-! ## What is foretold -/

/-- The standard artifacts of a table. -/
def Generator.standards (g : Generator) (table : Text) : List Artifact :=
  Kind.builtin.map (Artifact.standard g.settings (Naming.classOfTable table))

/-- The sites of a table, if anything comes of it: its artifacts and the routes file. -/
def Generator.sites (g : Generator) (t : Tree) (table : Text) : List Address :=
  match g.metadata? table with
  | some _ => ((g.standards table).map fun a => t.destination a.target) ++
      [t.destination g.settings.routesPath]
  | none => []

/-- The content of the routes file, if it is there. -/
def Generator.routes? (g : Generator) (t : Tree) : Option Utf8.Bytes :=
  t.content? (t.destination g.settings.routesPath)

/-- The report of a table, by the files there are at the start of the run. -/
def Generator.foretold (g : Generator) (force : Bool) (t : Tree) (table : Text) : TableReport :=
  match g.metadata? table with
  | some m =>
    { table
      className := Naming.classOfTable table
      outcomes := (g.standards table).map (g.outcome force t m)
      routeAdded := !Text.contains (Route.groundText (g.routes? t)) (routeOf table) }
  | none => { table, error := g.unread? table }

/-- The tables whose routes were added. -/
def addedTables (ts : List TableReport) : List Text :=
  (ts.filter TableReport.routeAdded).map TableReport.table

/-- The files after some tables were generated, by those at the start. -/
structure Foreseen (g : Generator) (force : Bool) (t₀ : Tree) (tables : List Text) (t : Tree) :
    Prop where
  built : Built t₀ (tables.flatMap (g.sites t₀)) t
  made : ∀ table ∈ tables, ∀ m ∈ g.metadata? table, ∀ a ∈ g.standards table,
    Made g force t₀ m a t
  listed : Listed t (t₀.destination g.settings.routesPath) (g.routes? t₀)
    ((addedTables (tables.map (g.foretold force t₀))).map routeOf)

/-- One more table, of another class than those before it. All have names in ASCII. -/
structure Further (tables : List Text) (table : Text) : Prop where
  names : ∀ table' ∈ tables, TableName table'
  name : TableName table
  distinct : ∀ table' ∈ tables, Naming.classOfTable table ≠ Naming.classOfTable table'

/-- A table of another class than those before it is another table. -/
theorem Further.fresh {tables : List Text} {table : Text} (h : Further tables table) :
    table ∉ tables :=
  fun hmem => h.distinct table hmem rfl

/-- A further table is listed by its own report. -/
theorem addedTables_concat (ts : List TableReport) (t : TableReport) :
    addedTables (ts ++ [t]) =
      if t.routeAdded = true then addedTables ts ++ [t.table] else addedTables ts := by
  unfold addedTables
  rw [List.filter_append, List.map_append]
  cases hadded : t.routeAdded <;> simp [hadded]

section

variable {g : Generator} {force : Bool} {t₀ t t' : Tree} {tables tables' : List Text}
  {table : Text} {s s' : Session}

/-- A table that can be read has the sites of its five artifacts and shares that of the routes. -/
theorem sites_of_metadata {m : Schema.Metadata} (hmeta : g.metadata? table = some m) :
    g.sites t₀ table = ((g.standards table).map fun a => t₀.destination a.target) ++
      [t₀.destination g.settings.routesPath] := by
  unfold Generator.sites
  rw [hmeta]

/-- What is foretold of a table bears its name, whether it can be read or not. -/
theorem foretold_table : (g.foretold force t₀ table).table = table := by
  unfold Generator.foretold
  split <;> rfl

/-- No route is added for a table that is not in the list. -/
theorem mem_of_mem_addedTables
    (h : table ∈ addedTables (tables.map (g.foretold force t₀))) : table ∈ tables := by
  obtain ⟨r, hr, rfl⟩ := List.mem_map.mp h
  obtain ⟨table', htable', rfl⟩ := List.mem_map.mp (List.mem_filter.mp hr).1
  rw [foretold_table]
  exact htable'

/-- What cannot be read has no metadata. -/
theorem metadata?_of_unreadable (h : ¬ Readable g table) : g.metadata? table = none := by
  rw [readable_iff, Option.not_isSome_iff_eq_none] at h
  unfold Generator.metadata?
  rw [h]
  rfl

/-! ## One table -/

/-- The artifacts of a table are those of the built-in kinds, by its class. -/
theorem mem_standards {a : Artifact} :
    a ∈ g.standards table ↔
      ∃ kind ∈ Kind.builtin, Artifact.standard g.settings (Naming.classOfTable table) kind = a :=
  List.mem_map

/-- No standard artifact makes a detour, and the stubs are found from the start. -/
theorem plotted_standards (h : Orderly g t₀) (hname : TableName table) :
    ∀ a ∈ g.standards table, Plotted g t₀ a := by
  intro a ha
  obtain ⟨kind, hkind, rfl⟩ := mem_standards.mp ha
  exact plotted_standard h hkind (Naming.plain_classOfTable hname)

/-- No standard artifact is the routes file or stands above it. -/
theorem standards_clear_routes (h : Orderly g t₀) (hname : TableName table) :
    ∀ a ∈ g.standards table, Clear g t₀ a (t₀.destination g.settings.routesPath) := by
  intro a ha
  obtain ⟨kind, hkind, rfl⟩ := mem_standards.mp ha
  exact clear_routes h hkind (Naming.plain_classOfTable hname)

/-- The artifacts of a table are clear of those of a table of another class. -/
theorem standards_clear (h : Orderly g t₀) {table' : Text} (hname : TableName table)
    (hname' : TableName table') (hclass : Naming.classOfTable table ≠ Naming.classOfTable table') :
    ∀ a ∈ g.standards table, ∀ a' ∈ g.standards table',
      Clear g t₀ a (t₀.destination a'.target) := by
  intro a ha a' ha'
  obtain ⟨kind, hkind, rfl⟩ := mem_standards.mp ha
  obtain ⟨kind', hkind', rfl⟩ := mem_standards.mp ha'
  exact clear_standard h hkind hkind' (Naming.plain_classOfTable hname)
    (Naming.plain_classOfTable hname') fun hboth => hclass hboth.1

/-- The artifacts of a table are clear of each other. -/
theorem standards_apart (h : Orderly g t₀) (hname : TableName table) :
    (g.standards table).Pairwise fun a' a => Clear g t₀ a (t₀.destination a'.target) := by
  have hkinds : Kind.builtin.Pairwise (· ≠ ·) := by decide
  refine List.pairwise_map.mpr (hkinds.imp_of_mem ?_)
  intro kind' kind hkind' hkind hne
  exact clear_standard h hkind hkind' (Naming.plain_classOfTable hname)
    (Naming.plain_classOfTable hname) fun hboth => hne hboth.2.symm

/-- The artifacts of a table are clear of what was built for tables of other classes. -/
theorem standards_clear_sites (h : Orderly g t₀) (hfurther : Further tables table) :
    ∀ a ∈ g.standards table, ∀ y ∈ tables.flatMap (g.sites t₀), Clear g t₀ a y := by
  intro a ha y hy
  obtain ⟨table', htable', hy⟩ := List.mem_flatMap.mp hy
  unfold Generator.sites at hy
  split at hy
  next =>
    rcases List.mem_append.mp hy with hy | hy
    · obtain ⟨a', ha', rfl⟩ := List.mem_map.mp hy
      exact standards_clear h hfurther.name (hfurther.names table' htable')
        (hfurther.distinct table' htable') a ha a' ha'
    · rw [List.mem_singleton.mp hy]
      exact standards_clear_routes h hfurther.name a ha
  next => cases hy

/-- A table of which nothing comes leaves the files as they were told. -/
theorem Foreseen.unread (hforeseen : Foreseen g force t₀ tables t)
    (hmeta : g.metadata? table = none) : Foreseen g force t₀ (tables ++ [table]) t := by
  have hsites : g.sites t₀ table = [] := by
    unfold Generator.sites
    rw [hmeta]
  have hadded : (g.foretold force t₀ table).routeAdded = false := by
    unfold Generator.foretold
    rw [hmeta]
  refine ⟨?_, fun table' htable' m hm a ha => ?_, ?_⟩
  · rw [List.flatMap_append, List.flatMap_singleton, hsites, List.append_nil]
    exact hforeseen.built
  · rcases List.mem_append.mp htable' with htable' | htable'
    · exact hforeseen.made table' htable' m hm a ha
    · rw [List.mem_singleton.mp htable', hmeta] at hm
      cases hm
  · rw [List.map_append, List.map_singleton, addedTables_concat, hadded]
    exact hforeseen.listed

/-- The route of a table is added if it was not held at the start. -/
theorem register_foretold {added : Bool} (h : Orderly g t₀) (hfurther : Further tables table)
    (hrooted : Files.Rooted t)
    (hplace : t.destination g.settings.routesPath = t₀.destination g.settings.routesPath)
    (hlisted : Listed t (t₀.destination g.settings.routesPath) (g.routes? t₀)
      ((addedTables (tables.map (g.foretold force t₀))).map routeOf))
    (hregister : Route.register g.settings.routesPath (routeOf table) t = .ok added t') :
    added = !Text.contains (Route.groundText (g.routes? t₀)) (routeOf table) ∧
      Listed t' (t₀.destination g.settings.routesPath) (g.routes? t₀)
        ((if added = true then addedTables (tables.map (g.foretold force t₀)) ++ [table]
          else addedTables (tables.map (g.foretold force t₀))).map routeOf) := by
  have hdown := Artifact.routesPath_down h.standard h.base
  rw [← hplace] at hlisted ⊢
  have hdetour : (t.content? (t.destination g.settings.routesPath)).isSome = true →
      ¬ Files.Detours t g.settings.routesPath (t.destination g.settings.routesPath) := by
    intro hsome hdetour
    have hnone := Files.Connected.no_detour hrooted.connected hdown hdetour
    obtain ⟨content, hcontent⟩ := Option.isSome_iff_exists.mp hsome
    rw [content?_eq_some_iff, hnone] at hcontent
    cases hcontent
  obtain ⟨_, hadded, hlisted'⟩ := register_routeOf hlisted
    (fun table' h' => hfurther.names table' (mem_of_mem_addedTables h')) hfurther.name hdetour
    hregister
  -- The table has not come up before, so its line can be in the file only if it was so at the
  -- start.
  have hnew : table ∉ addedTables (tables.map (g.foretold force t₀)) :=
    fun hmem => hfurther.fresh (mem_of_mem_addedTables hmem)
  rw [and_iff_left hnew, ← Text.contains_iff, Bool.not_eq_true, ← Bool.not_eq_true'] at hadded
  exact ⟨Bool.eq_iff_iff.mpr hadded, hlisted'⟩

/-- What was made for some tables is kept while the artifacts of one more are put at their sites
and its route is put in the routes file. -/
theorem Foreseen.made_concat {t₁ : Tree} {m : Schema.Metadata} (h : Orderly g t₀)
    (hfurther : Further tables table) (hforeseen : Foreseen g force t₀ tables t)
    (hmeta : g.metadata? table = some m)
    (hartifacts : Confined ((g.standards table).map fun a => t₀.destination a.target) t t₁)
    (hmade : ∀ a ∈ g.standards table, Made g force t₀ m a t₁)
    (hroute : Confined [t₀.destination g.settings.routesPath] t₁ t') :
    ∀ table' ∈ tables ++ [table], ∀ m ∈ g.metadata? table', ∀ a ∈ g.standards table',
      Made g force t₀ m a t' := by
  have hlast : ∀ {table' a}, TableName table' → a ∈ g.standards table' →
      t₀.destination a.target ∉ [t₀.destination g.settings.routesPath] := by
    intro table' a hname' ha
    rw [List.mem_singleton]
    exact (standards_clear_routes h hname' a ha).ne
  refine List.forall_mem_append.mpr ⟨fun table' htable' m' hm' a ha => ?_, ?_⟩
  · have hothers : ∀ a' ∈ g.standards table, Clear g t₀ a' (t₀.destination a.target) :=
      fun a' ha' => standards_clear h hfurther.name (hfurther.names table' htable')
        (hfurther.distinct table' htable') a' ha' a ha
    exact ((hforeseen.made table' htable' m' hm' a ha).kept hartifacts
      (not_mem_targets hothers)).kept hroute (hlast (hfurther.names table' htable') ha)
  · rintro table' htable' m' hm' a ha
    obtain rfl := List.mem_singleton.mp htable'
    rw [hmeta] at hm'
    cases hm'
    exact (hmade a ha).kept hroute (hlast hfurther.name ha)

/-- A table of which something comes has the artifacts and the route that were told. -/
theorem Foreseen.course {columns : List Schema.Column} (h : Orderly g t₀)
    (hfurther : Further tables table) (hforeseen : Foreseen g force t₀ tables s.tree)
    (hcolumns : g.catalog.columns table = .ok columns) (c : Course g force table columns s s') :
    Foreseen g force t₀ (tables ++ [table]) s'.tree ∧ c.report = g.foretold force t₀ table := by
  have hmeta : g.metadata? table = some c.metadata :=
    (metadata?_of_columns hcolumns).trans c.derived
  have hdown := Artifact.routesPath_down h.standard h.base
  have hroutes := standards_clear_routes h hfurther.name
  obtain ⟨hartifacts, hdeclaration⟩ := c.standard h.standard
  -- The artifacts are generated, ...
  have hgenerated := c.generated
  rw [hartifacts] at hgenerated
  obtain ⟨houtcomes, hbuilt, hmade, hconfined⟩ := generateArtifacts_made h.memoryless
    (plotted_standards h hfurther.name) (standards_clear_sites h hfurther)
    (standards_apart h hfurther.name) (c.learns.tree ▸ hforeseen.built) hgenerated
  rw [c.learns.tree] at hconfined
  -- ... and the route is registered.
  have hregistered := c.registered
  rw [hdeclaration] at hregistered
  have hplace := hbuilt.destination g.settings.routesPath
  obtain ⟨hconfined', _⟩ := Route.register_confined hdown hregistered
  rw [hplace] at hconfined'
  obtain ⟨hadded, hlisted⟩ := register_foretold h hfurther hbuilt.rooted hplace
    (hforeseen.listed.congr (hconfined.content? (not_mem_targets hroutes))) hregistered
  have hreport : c.report = g.foretold force t₀ table := by
    unfold Course.report Generator.foretold
    rw [hmeta, c.className, houtcomes, hadded]
  refine ⟨⟨?_, hforeseen.made_concat h hfurther hmeta hconfined hmade hconfined', ?_⟩, hreport⟩
  · rw [List.flatMap_append, List.flatMap_singleton, sites_of_metadata hmeta, ← List.append_assoc]
    exact hbuilt.register hdown hregistered
  · rw [List.map_append, List.map_singleton, addedTables_concat, foretold_table, ← hreport]
    exact hlisted

/-- Generating one more table comes to what was told at the start. -/
theorem generateTable_foreseen {r : TableReport} (h : Orderly g t₀)
    (hfurther : Further tables table) (hforeseen : Foreseen g force t₀ tables s.tree)
    (hgenerate : generateTable g force table s = .ok r s') :
    Foreseen g force t₀ (tables ++ [table]) s'.tree ∧ r = g.foretold force t₀ table := by
  obtain ⟨htable, hsucceeded, htells⟩ := generateTable_report hgenerate
  rcases generateTable_ok hgenerate with ⟨columns, s₁, hcolumns, hidle, c, rfl⟩ |
    ⟨hunreadable, hidle, error, hr⟩
  · exact Foreseen.course h hfurther (hidle.tree ▸ hforeseen) hcolumns c
  · have hmeta := metadata?_of_unreadable hunreadable
    refine ⟨hidle.tree ▸ hforeseen.unread hmeta, ?_⟩
    have hfailed : (g.unread? table).isNone = false := by
      rw [← hsucceeded, hr]
      rfl
    obtain ⟨message, hmessage⟩ :=
      Option.isSome_iff_exists.mp (Option.isNone_eq_false_iff.mp hfailed)
    unfold Generator.foretold
    rw [hmeta, hmessage, htells message (htable ▸ hmessage), htable]

/-! ## Whole runs -/

/-- At the start everything is as it is at the start. -/
theorem Foreseen.nil (h : Orderly g t₀) : Foreseen g force t₀ [] t₀ :=
  ⟨Built.nil h.rooted, nofun, Listed.nil _ _⟩

/-- All reports and all files come to what was told at the start. -/
theorem generateTables_foreseen {rs : List TableReport} (h : Orderly g s.tree)
    (hnames : ∀ table ∈ tables, TableName table)
    (hclasses : (tables.map Naming.classOfTable).Nodup)
    (hgenerate : generateTables g force tables s = .ok rs s') :
    Foreseen g force s.tree tables s'.tree ∧ rs = tables.map (g.foretold force s.tree) := by
  refine mapM_along_map (I := fun done s' => Foreseen g force s.tree done s'.tree) ?_ hgenerate
    (Foreseen.nil h)
  rintro done table rest r s₁ s₂ rfl hforeseen hgenerate
  have hdistinct : ∀ table' ∈ done, Naming.classOfTable table ≠ Naming.classOfTable table' := by
    rw [List.map_append, List.map_cons] at hclasses
    exact fun table' htable' heq => (List.nodup_append.mp hclasses).2.2 _
      (List.mem_map_of_mem htable') _ (List.mem_cons_self ..) heq.symm
  exact generateTable_foreseen h ⟨fun table' h' => hnames table' (List.mem_append_left _ h'),
    hnames table (by simp), hdistinct⟩ hforeseen hgenerate

/-- The same tables lead to the same files, but perhaps for the routes file. -/
theorem Foreseen.unique (hforeseen : Foreseen g force t₀ tables t)
    (hforeseen' : Foreseen g force t₀ tables' t')
    (htables : ∀ table, table ∈ tables' ↔ table ∈ tables) {x : Address}
    (hx : x ≠ t₀.destination g.settings.routesPath) : t'.node? x = t.node? x := by
  by_cases hsite : x ∈ tables.flatMap (g.sites t₀)
  · -- A site of an artifact has what was told of it.
    obtain ⟨table, htable, hsite⟩ := List.mem_flatMap.mp hsite
    unfold Generator.sites at hsite
    split at hsite
    next m hmeta =>
      rcases List.mem_append.mp hsite with hsite | hsite
      · obtain ⟨a, ha, rfl⟩ := List.mem_map.mp hsite
        rw [(hforeseen.made table htable m hmeta a ha).node,
          (hforeseen'.made table ((htables table).mpr htable) m hmeta a ha).node]
      · exact absurd (List.mem_singleton.mp hsite) hx
    next => cases hsite
  · refine hforeseen.built.unique hforeseen'.built (fun y => ?_) hsite
    simp only [List.mem_flatMap, htables]

/-- What is read of the file of an artifact is the same, too. -/
theorem Foreseen.readBytes_same (hforeseen : Foreseen g force t₀ tables t)
    (hforeseen' : Foreseen g force t₀ tables' t') (htable : table ∈ tables)
    (htable' : table ∈ tables') {o : Outcome} (ho : o ∈ (g.foretold force t₀ table).outcomes) :
    result (Files.readBytes o.artifact.target) t' =
      result (Files.readBytes o.artifact.target) t := by
  unfold Generator.foretold at ho
  split at ho
  next m hmeta =>
    obtain ⟨a, ha, rfl⟩ := List.mem_map.mp ho
    have hmade := hforeseen.made table htable m hmeta a ha
    have hmade' := hforeseen'.made table htable' m hmeta a ha
    show result (Files.readBytes a.target) t' = result (Files.readBytes a.target) t
    rw [Files.result_readBytes hmade.leads, Files.result_readBytes hmade'.leads, hmade.node,
      hmade'.node]
  next => cases ho

/-- The routes file has the routes added that were told. -/
theorem Foreseen.routes? (hforeseen : Foreseen g force t₀ tables t) :
    g.routes? t = Route.listed (g.routes? t₀)
      ((addedTables (tables.map (g.foretold force t₀))).map routeOf) := by
  rw [← hforeseen.listed.content, Generator.routes?, hforeseen.built.destination]

/-- All that comes of a run was told by the files before it. -/
theorem generate_foreseen {force : Option Bool} {r : Report} (h : Orderly g s.tree)
    (hnames : ∀ table ∈ tables, TableName table)
    (hclasses : (tables.map Naming.classOfTable).Nodup)
    (hrun : generate g tables force s = .ok r s') :
    Foreseen g (force.getD g.settings.forceOverwrite) s.tree tables s'.tree ∧
      r.tables = tables.map (g.foretold (force.getD g.settings.forceOverwrite) s.tree) := by
  obtain ⟨_, s₁, s₂, _, hlearns, _, _, htables, hidle⟩ := generate_ok hrun
  rw [hidle.tree]
  rw [← hlearns.tree] at h ⊢
  exact generateTables_foreseen h hnames hclasses htables

end

section

variable {g : Generator} {t₀ : Tree} (clock : Nat → Float)

/-- Nothing that is told depends on the clock. -/
theorem Orderly.with_clock (h : Orderly g t₀) : Orderly { g with clock } t₀ :=
  ⟨h.standard, h.base, h.stubs, h.memoryless, h.rooted⟩

/-- The clock has no part in what is foreseen. -/
theorem Foreseen.of_clock {force : Bool} {tables : List Text} {t : Tree}
    (h : Foreseen { g with clock } force t₀ tables t) : Foreseen g force t₀ tables t :=
  ⟨h.built, fun table htable m hm a ha =>
    let made := h.made table htable m hm a ha
    ⟨made.leads, made.node, made.stands⟩, h.listed⟩

end

/-- The routes that a run adds, in the order of its tables. -/
def Report.addedRoutes (r : Report) : List Text := (addedTables r.tables).map routeOf

/-- The order in which tables are listed does not matter, if they have names in ASCII and different
classes and do not get in each other's way (`Orderly`). Let a run over them return, and let a run
over the same tables in another order return, from the same files but perhaps on another clock. Then
both have the same reports, each in its order. What is read of the file of any artifact is the same,
and so is whatever stands anywhere, but for the routes file. To this both runs add the same routes,
each in its order. -/
theorem generate_perm {g : Generator} {clock : Nat → Float} {tables tables' : List Text}
    {force : Option Bool} {s s' later later' : Session} {r r' : Report} (h : Orderly g s.tree)
    (hnames : ∀ table ∈ tables, TableName table)
    (hclasses : (tables.map Naming.classOfTable).Nodup) (hperm : tables'.Perm tables)
    (hlater : later.tree = s.tree) (hrun : generate g tables force s = .ok r s')
    (hrun' : generate { g with clock } tables' force later = .ok r' later') :
    r'.tables.Perm r.tables ∧
    (∀ t ∈ r.tables, ∀ o ∈ t.outcomes,
      result (Files.readBytes o.artifact.target) later'.tree =
        result (Files.readBytes o.artifact.target) s'.tree) ∧
    (∀ x ≠ s.tree.destination g.settings.routesPath, later'.tree.node? x = s'.tree.node? x) ∧
    r'.addedRoutes.Perm r.addedRoutes ∧
    g.routes? s'.tree = Route.listed (g.routes? s.tree) r.addedRoutes ∧
    g.routes? later'.tree = Route.listed (g.routes? s.tree) r'.addedRoutes := by
  -- Both runs leave what can be foretold from the tree they begin with, and that does not depend on
  -- the order of the tables.
  obtain ⟨hforeseen, hreports⟩ := generate_foreseen h hnames hclasses hrun
  obtain ⟨hforeseen', hreports'⟩ := generate_foreseen (g := { g with clock })
    (hlater ▸ h.with_clock clock) (fun table htable => hnames table (hperm.mem_iff.mp htable))
    ((hperm.map _).nodup_iff.mpr hclasses) hrun'
  replace hforeseen' := hforeseen'.of_clock
  rw [hlater] at hforeseen' hreports'
  have hreported : r'.tables.Perm r.tables := by
    rw [hreports, hreports']
    exact hperm.map _
  have hsame : ∀ x ≠ s.tree.destination g.settings.routesPath,
      later'.tree.node? x = s'.tree.node? x :=
    fun x hx => hforeseen.unique hforeseen' (fun table => hperm.mem_iff) hx
  refine ⟨hreported, ?_, hsame, (hreported.filter _).map _ |>.map _, ?_, ?_⟩
  · intro t ht o ho
    rw [hreports] at ht
    obtain ⟨table, htable, rfl⟩ := List.mem_map.mp ht
    exact hforeseen.readBytes_same hforeseen' htable (hperm.mem_iff.mpr htable) ho
  · rw [hforeseen.routes?, Report.addedRoutes, hreports]
  · rw [hforeseen'.routes?, Report.addedRoutes, hreports']
    rfl

/-- Two tables in both orders, on different clocks. -/
theorem generate_perm_users :
    let g := standardGenerator ["users", "posts"] ["User", "Post"]
    let clock : Nat → Float := fun reading => -Float.ofNat (2 * reading)
    let s : Session := { tree := { workingDirectory := [], entries := [] } }
    ∃ r s' r' later', generate g ["users", "posts"] none s = .ok r s' ∧
      generate { g with clock } ["posts", "users"] none s = .ok r' later' ∧
      r.addedRoutes = [routeOf "users", routeOf "posts"] ∧
      r'.addedRoutes = [routeOf "posts", routeOf "users"] ∧
      r'.tables.Perm r.tables ∧
      later'.tree.node? ["app", "Models", "User.php"] =
        s'.tree.node? ["app", "Models", "User.php"] := by
  intro g clock s
  have hruns : passes (generate g ["users", "posts"] none)
      (fun r _ => r.addedRoutes = [routeOf "users", routeOf "posts"]) s = true := by
    decide +kernel
  have hruns' : passes (generate { g with clock } ["posts", "users"] none)
      (fun r _ => r.addedRoutes = [routeOf "posts", routeOf "users"]) s = true := by
    decide +kernel
  obtain ⟨r, s', hrun, hadded⟩ := ok_of_passes hruns
  obtain ⟨r', later', hrun', hadded'⟩ := ok_of_passes hruns'
  have hrooted : Files.Rooted s.tree := Files.rooted_of_entries nofun rfl
  have horderly : Orderly g s.tree :=
    ⟨⟨rfl, rfl, rfl, rfl⟩, by decide, stubs_steady hrooted (Or.inl (by decide)), fun _ _ => rfl,
      hrooted⟩
  obtain ⟨hreports, _, hfiles, _⟩ := generate_perm horderly (by decide +kernel) (by decide +kernel)
    (List.Perm.swap ..) rfl hrun hrun'
  exact ⟨r, s', r', later', hrun, hrun', of_decide_eq_true hadded, of_decide_eq_true hadded',
    hreports, hfiles _ (by decide +kernel)⟩

/-- A generator like the standard one, whose stubs are beyond a directory that the models make. The
backend declares all classes but one model. -/
def detouredGenerator : Generator :=
  { standardGenerator ["users", "posts"] [] with
    settings := { stubDirectory := some (Files.Path.ofText "app/Models/../../stubs") }
    backend := .custom "fixed" fun _ _ => Text.join " "
      (["UserRequest", "UserResource", "UserService", "UserController", "Post", "PostRequest",
        "PostResource", "PostService", "PostController"].map fun className =>
          Text.concat ["class ", Text.ofString className, " \x7b\x7d"]) }

/-- Where the path to the stubs makes a detour over a directory that is not there yet, the first
table finds no stubs, and then the order matters. -/
theorem generate_perm_detoured :
    let g := detouredGenerator
    let stub : Text := "<?php\n\nclass \x7b\x7bArtifactClass\x7d\x7d \x7b\x7d\n"
    let s : Session :=
      { tree :=
          { workingDirectory := []
            entries := [(["stubs"], .directory), (["stubs", "model.stub"], textFile stub)] } }
    let tables : List Text := ["users", "posts"]
    g.settings.Standard ∧ Text.ofString ".." ∉ g.settings.baseDirectory.segments ∧ g.Memoryless ∧
      Files.Rooted s.tree ∧ (∀ table ∈ tables, TableName table) ∧
      (tables.map Naming.classOfTable).Nodup ∧
      ∃ r s' r' later', generate g tables none s = .ok r s' ∧
        generate g tables.reverse none s = .ok r' later' ∧
        later'.tree.node? ["app", "Models", "User.php"] =
          some (textFile "<?php\n\nclass User \x7b\x7d\n") ∧
        s'.tree.node? ["app", "Models", "User.php"] ≠
          some (textFile "<?php\n\nclass User \x7b\x7d\n") := by
  intro g stub s tables
  have hruns : passes (generate g tables none)
      (fun _ s' => s'.tree.node? ["app", "Models", "User.php"] ≠
        some (textFile "<?php\n\nclass User \x7b\x7d\n")) s = true := by
    decide +kernel
  have hruns' : passes (generate g tables.reverse none)
      (fun _ s' => s'.tree.node? ["app", "Models", "User.php"] =
        some (textFile "<?php\n\nclass User \x7b\x7d\n")) s = true := by
    decide +kernel
  obtain ⟨r, s', hrun, hskeleton⟩ := ok_of_passes hruns
  obtain ⟨r', later', hrun', hstub⟩ := ok_of_passes hruns'
  exact ⟨⟨rfl, rfl, rfl, rfl⟩, by decide, fun _ _ => rfl,
    Files.rooted_of_entries (by decide +kernel) rfl, by decide +kernel, by decide +kernel,
    r, s', r', later', hrun, hrun', of_decide_eq_true hstub, of_decide_eq_true hskeleton⟩

end Scaffold.Run
