import Scaffold.Proofs.Files.Confined
import Scaffold.Proofs.Run.Routing
import Scaffold.Proofs.Run.Unreadable

/-!
# What tables come to, told at the start

Let a run have the standard settings and a backend whose replies depend on the prompts alone. Then
what comes of a table is told by the files that there are before the run, whatever tables come
before it. `Generator.foretold` tells the report of a table, `Made` what stands at the target of an
artifact, and `Foreseen` is what holds after every table.

Three things have to be shown for that, and each has a notion of its own.

* An artifact has a site, to which its target leads from the start and which is no other artifact's
  (`Clear`). With the standard settings the sites are below the base directory, one directory for
  each kind, and the routes file is elsewhere.
* What a stub holds is what it held at the start. Artifacts end in `.php` and stubs in `.stub`, so
  none is written over a stub (`stub_ne_source`); but a path to the stubs may come to lead somewhere
  only once a directory has been made, which `Steady` excludes.
* The backend does not remember (`Generator.Memoryless`): what it answered to the tables before does
  not matter for this one.

Then the text of an artifact is a function of the files at the start (`produce_text`), and so is
whether it is written. The conditions for all tables together are `Orderly`.
-/

namespace Scaffold.Run

open Files (Address Built Confined Steady Tree address content?_eq_some_iff destination_eq)
open Program (mapM_along_map result result_of_error result_of_ok)
open Route (Listed)

/-! ## Texts -/

/-- What the backend replies depends on the prompt alone, not on what it was asked before. -/
def Generator.Memoryless (g : Generator) : Prop :=
  ∀ earlier prompt, (g.backend.ask g.network earlier prompt).text =
    (g.backend.ask g.network [] prompt).text

/-- What is read of the stub of an artifact, if it is there and can be read. -/
def Generator.stub? (g : Generator) (t : Tree) (a : Artifact) : Option Text :=
  (result (Stub.load? g.stubs a) t).toOption.join

/-- The source text of an artifact, by the files there are. -/
def Generator.text (g : Generator) (t : Tree) (m : Schema.Metadata) (a : Artifact) : Text :=
  match g.verdict [] a m with
  | .accepted source => source
  | _ => rendered g a m (g.stub? t a)

/-- The outcome of an artifact, by the files there are. -/
def Generator.outcome (g : Generator) (force : Bool) (t : Tree) (m : Schema.Metadata)
    (a : Artifact) : Outcome :=
  outcomeOf a (g.verdict [] a m) (!Files.spares force (t.node? (t.destination a.target)))

/-- Where no file stands at the path of the stub, there is no stub. -/
theorem stub?_of_no_file {g : Generator} {t : Tree} {a : Artifact}
    (h : ∀ content, Files.node? (Stub.path g.stubs a) t ≠ .ok (some (.file content)) t) :
    g.stub? t a = none := by
  unfold Generator.stub?
  rw [result_load?]
  cases hnode : Files.node? (Stub.path g.stubs a) t with
  | error failure t₁ =>
    rw [result_of_error hnode]
    rfl
  | ok node t₁ =>
    obtain rfl := (Files.reads_node? _).tree_eq hnode
    rw [result_of_ok hnode]
    rcases node with _ | ⟨_ | content⟩
    · rfl
    · rfl
    · exact absurd hnode (h content)

/-- A stub is read as it was at the start if the files at its place are those of the start. -/
theorem stub?_steady {g : Generator} {t t' : Tree} {a : Artifact}
    (h : Steady t (Stub.path g.stubs a)) (hgrows : Files.Grows t t')
    (hsame : t'.content? (t.destination (Stub.path g.stubs a)) =
      t.content? (t.destination (Stub.path g.stubs a))) : g.stub? t' a = g.stub? t a := by
  by_cases hfile : ∃ content, Files.node? (Stub.path g.stubs a) t = .ok (some (.file content)) t
  · obtain ⟨content, hfile⟩ := hfile
    unfold Generator.stub?
    rw [result_load?, result_load?, result_of_ok hfile,
      result_of_ok ((h.file_iff hgrows hsame content).mpr hfile)]
  · rw [stub?_of_no_file fun content hnode => hfile ⟨content, hnode⟩,
      stub?_of_no_file fun content hnode =>
        hfile ⟨content, (h.file_iff hgrows hsame content).mp hnode⟩]

/-- What is produced is the source text by the files there are then. -/
theorem produce_text {g : Generator} {a : Artifact} {m : Schema.Metadata} {s s' : Session}
    {p : Produced} (hg : g.Memoryless) (h : produce g a m s = .ok p s') :
    p = ⟨g.text s.tree m a, g.verdict [] a m⟩ := by
  have hverdict : g.verdict s.prompts a m = g.verdict [] a m := by
    unfold Generator.verdict Generator.reply
    rw [hg]
  obtain ⟨_, hresult⟩ := produce_runs h
  rw [hverdict] at hresult
  -- Whatever is not accepted is rendered from the stub.
  have hload : ∀ verdict, ((result (Stub.load? g.stubs a) s.tree).map fun stub =>
      Produced.mk (rendered g a m stub) verdict) = .ok p →
        p = ⟨rendered g a m (g.stub? s.tree a), verdict⟩ := by
    unfold Generator.stub?
    intro verdict heq
    cases hstub : result (Stub.load? g.stubs a) s.tree with
    | error failure =>
      rw [hstub] at heq
      cases heq
    | ok stub =>
      rw [hstub] at heq
      exact (Except.ok.inj heq).symm
  unfold Generator.text
  unfold produced at hresult
  cases hreply : g.verdict [] a m with
  | accepted source =>
    rw [hreply] at hresult
    exact (Except.ok.inj hresult).symm
  | unanswered =>
    rw [hreply] at hresult
    exact hload _ hresult
  | rejected =>
    rw [hreply] at hresult
    exact hload _ hresult

/-! ## Artifacts -/

/-- The artifact is at its site, as it is told at the start. -/
structure Made (g : Generator) (force : Bool) (t₀ : Tree) (m : Schema.Metadata) (a : Artifact)
    (t : Tree) : Prop where
  leads : address a.target t = .ok (t₀.destination a.target) t
  node : t.node? (t₀.destination a.target) =
    Files.leftBy force (g.text t₀ m a) (t₀.node? (t₀.destination a.target))
  stands : (t.node? (t₀.destination a.target)).isSome = true

/-- The artifact has its stub away from a site, and its target away from there and the way there. -/
structure Clear (g : Generator) (t₀ : Tree) (a : Artifact) (y : Address) : Prop where
  stub : t₀.destination (Stub.path g.stubs a) ≠ y
  target : ¬ t₀.destination a.target <+: y

/-- The target of the artifact is where its names say, and a stub of it was there at the start. -/
structure Plotted (g : Generator) (t₀ : Tree) (a : Artifact) : Prop where
  down : Text.ofString ".." ∉ a.target.segments
  steady : Steady t₀ (Stub.path g.stubs a)

section

variable {g : Generator} {force : Bool} {t₀ t t' : Tree} {m : Schema.Metadata} {a : Artifact}
  {sites : List Address} {s s' : Session}

/-- What was made of an artifact is not changed by what is written elsewhere. -/
theorem Made.kept (h : Made g force t₀ m a t) (hconfined : Confined sites t t')
    (hsite : t₀.destination a.target ∉ sites) : Made g force t₀ m a t' :=
  ⟨hconfined.grows.address h.leads, (hconfined.kept hsite h.stands).trans h.node,
    hconfined.grows.isSome h.stands⟩

/-- An artifact that is clear of a site has another one. -/
theorem Clear.ne {y : Address} (h : Clear g t₀ a y) : t₀.destination a.target ≠ y :=
  fun heq => h.target (heq ▸ List.prefix_refl _)

/-- A site that some artifacts are clear of is none of theirs. -/
theorem not_mem_targets {as : List Artifact} {y : Address} (h : ∀ a ∈ as, Clear g t₀ a y) :
    y ∉ as.map fun a => t₀.destination a.target := by
  intro hmem
  obtain ⟨a, ha, heq⟩ := List.mem_map.mp hmem
  exact (h a ha).ne heq

/-- An artifact comes to what was told at the start. -/
theorem generateArtifact_made {o : Outcome} (hg : g.Memoryless) (hplotted : Plotted g t₀ a)
    (hclear : ∀ y ∈ sites, Clear g t₀ a y) (hbuilt : Built t₀ sites s.tree)
    (h : generateArtifact g m force a s = .ok o s') :
    o = g.outcome force t₀ m a ∧ Built t₀ (sites ++ [t₀.destination a.target]) s'.tree ∧
      Made g force t₀ m a s'.tree ∧ Confined [t₀.destination a.target] s.tree s'.tree := by
  obtain ⟨p, s₁, written, t, hproduce, hwrite, rfl, _, rfl⟩ := generateArtifact_ok h
  obtain ⟨hasked, _⟩ := produce_ok hproduce
  obtain rfl := produce_text hg hproduce
  rw [hasked.tree] at hwrite
  have hplace := hbuilt.destination a.target
  -- Neither the stub nor the site was touched by what was built so far.
  have htext : g.text s.tree m a = g.text t₀ m a := by
    unfold Generator.text
    rw [stub?_steady hplotted.steady hbuilt.confined.grows
      (hbuilt.confined.content? fun hmem => (hclear _ hmem).stub rfl)]
  have hbefore : s.tree.node? (t₀.destination a.target) = t₀.node? (t₀.destination a.target) :=
    hbuilt.confined.apart fun y hy => (hclear y hy).target
  obtain ⟨hwritten, hnode, hstands⟩ := hbuilt.rooted.write_node? hplotted.down hwrite
  rw [hplace] at hwritten hnode hstands
  rw [hbefore] at hwritten hnode
  rw [htext] at hnode
  have hleads : address a.target s'.tree = .ok (t₀.destination a.target) s'.tree := by
    obtain ⟨_, x, hx, _⟩ := Files.pathExists_true_iff.mp (Artifact.write_pathExists hwrite)
    rw [hx, ← hplace, Files.destination_of_address hx,
      destination_eq (Artifact.write_grows hwrite).workingDirectory]
  have hconfined := Artifact.write_confined hplotted.down hwrite
  rw [hplace] at hconfined
  refine ⟨?_, hbuilt.write hplotted.down hwrite, ⟨hleads, hnode, hstands⟩, hconfined⟩
  rw [hwritten]
  rfl

/-- The artifacts of a table come to what was told at the start. -/
theorem generateArtifacts_made {as : List Artifact} {os : List Outcome} (hg : g.Memoryless)
    (hplotted : ∀ a ∈ as, Plotted g t₀ a) (hclear : ∀ a ∈ as, ∀ y ∈ sites, Clear g t₀ a y)
    (hapart : as.Pairwise fun a' a => Clear g t₀ a (t₀.destination a'.target))
    (hbuilt : Built t₀ sites s.tree)
    (h : as.mapM (generateArtifact g m force) s = .ok os s') :
    os = as.map (g.outcome force t₀ m) ∧
      Built t₀ (sites ++ as.map fun a => t₀.destination a.target) s'.tree ∧
      (∀ a ∈ as, Made g force t₀ m a s'.tree) ∧
      Confined (as.map fun a => t₀.destination a.target) s.tree s'.tree := by
  have hall := mapM_along_map (e := g.outcome force t₀ m)
    (I := fun done s₁ =>
      Built t₀ (sites ++ done.map fun a => t₀.destination a.target) s₁.tree ∧
        (∀ a ∈ done, Made g force t₀ m a s₁.tree) ∧
        Confined (done.map fun a => t₀.destination a.target) s.tree s₁.tree)
    ?_ h ⟨by rw [List.map_nil, List.append_nil]; exact hbuilt, nofun, Confined.refl _⟩
  · exact ⟨hall.2, hall.1⟩
  · rintro done a rest o s₁ s₂ rfl ⟨hbuilt₁, hmade₁, hconfined₁⟩ hgenerate
    -- The sites so far are those before the table and those of its artifacts before this one.
    have hothers : ∀ a' ∈ done, Clear g t₀ a (t₀.destination a'.target) := fun a' ha' =>
      (List.pairwise_append.mp hapart).2.2 a' ha' a (List.mem_cons_self ..)
    have hclear₁ : ∀ y ∈ sites ++ done.map fun a => t₀.destination a.target, Clear g t₀ a y := by
      refine List.forall_mem_append.mpr ⟨hclear a (by simp), fun y hy => ?_⟩
      obtain ⟨a', ha', rfl⟩ := List.mem_map.mp hy
      exact hothers a' ha'
    obtain ⟨ho, hbuilt₂, hmade, hconfined⟩ :=
      generateArtifact_made hg (hplotted a (by simp)) hclear₁ hbuilt₁ hgenerate
    rw [List.map_append, List.map_singleton, ← List.append_assoc]
    refine ⟨⟨hbuilt₂, fun a' ha' => ?_, hconfined₁.trans hconfined⟩, ho⟩
    rcases List.mem_append.mp ha' with ha' | ha'
    · apply (hmade₁ a' ha').kept hconfined
      rw [List.mem_singleton]
      exact (hothers a' ha').ne.symm
    · rw [List.mem_singleton.mp ha']
      exact hmade

end

/-! ## The standard artifacts -/

/-- What it takes for tables not to get in each other's way: the standard settings, from a base
directory without `..`; stubs that are found from the start (`stubs_steady`); a backend without
memory; and files that stand in directories. -/
structure Orderly (g : Generator) (t₀ : Tree) : Prop where
  standard : g.settings.Standard
  base : Text.ofString ".." ∉ g.settings.baseDirectory.segments
  /-- No stub that is there at the start comes to be found only later. -/
  stubs : ∀ kind ∈ Kind.builtin, ∀ base,
    Steady t₀ (Stub.path g.stubs (Artifact.standard g.settings base kind))
  memoryless : g.Memoryless
  rooted : Files.Rooted t₀

section

variable {g : Generator} {t₀ : Tree} {base base' : Text} {kind kind' : Kind}

/-- A stub is called by the name of its kind and stands in the directory of the stubs. -/
theorem stub_path (hkind : kind ∈ Kind.builtin) (directory : Files.Path) (s : Settings)
    (base : Text) :
    Stub.path directory (Artifact.standard s base kind) =
      ⟨directory.anchor, directory.segments ++ [kind.name ++ ".stub"]⟩ := by
  have hname : ∀ kind ∈ Kind.builtin,
      Files.Path.ofText (kind.name ++ ".stub") = ⟨.here, [kind.name ++ ".stub"]⟩ := by
    decide
  show directory / Files.Path.ofText (kind.name ++ ".stub") = _
  rw [hname kind hkind]
  rfl

/-- The name of a stub leads down. -/
theorem stub_name_ne (hkind : kind ∈ Kind.builtin) :
    kind.name ++ ".stub" ≠ Text.ofString ".." := by
  revert kind
  decide

/-- No stub is a source file. -/
theorem stub_ne_source (hkind : kind ∈ Kind.builtin) (t : Tree) (directory : Files.Path)
    (s : Settings) (base name : Text) (above : Address) :
    t.destination (Stub.path directory (Artifact.standard s base kind)) ≠
      above ++ [name ++ ".php"] := by
  rw [stub_path hkind]
  unfold Tree.destination
  rw [List.foldl_append]
  show Tree.stepTo _ _ ≠ _
  rw [Tree.stepTo, if_neg (stub_name_ne hkind)]
  intro heq
  have hlast := congrArg List.getLast? (List.cons.inj (List.append_inj' heq rfl).2).1
  rw [List.getLast?_append, List.getLast?_append] at hlast
  cases hlast

/-- The stubs are found from the start if the path of their directory has no `..`, or if the
directory is there. -/
theorem stubs_steady (hrooted : Files.Rooted t₀)
    (hstubs : Text.ofString ".." ∉ g.stubs.segments ∨
      Files.isDirectory g.stubs t₀ = .ok true t₀) :
    ∀ kind ∈ Kind.builtin, ∀ base,
      Steady t₀ (Stub.path g.stubs (Artifact.standard g.settings base kind)) := by
  intro kind hkind base
  rw [stub_path hkind]
  rcases hstubs with hdown | hthere
  · apply Files.Connected.steady hrooted.connected
    rw [List.mem_append, List.mem_singleton, not_or]
    exact ⟨hdown, (stub_name_ne hkind).symm⟩
  · exact Files.Connected.steady_below hrooted.connected hthere
      (mt List.mem_singleton.mp (stub_name_ne hkind).symm) (List.cons_ne_nil _ _)

/-- A standard artifact is written without detours, and its stub is found from the start. -/
theorem plotted_standard (h : Orderly g t₀) (hkind : kind ∈ Kind.builtin) (hbase : Plain base) :
    Plotted g t₀ (Artifact.standard g.settings base kind) :=
  ⟨Artifact.target_down h.standard h.base hkind hbase, h.stubs kind hkind base⟩

/-- An artifact is clear of the sites of all others. -/
theorem clear_standard (h : Orderly g t₀) (hkind : kind ∈ Kind.builtin)
    (hkind' : kind' ∈ Kind.builtin) (hbase : Plain base) (hbase' : Plain base')
    (hne : ¬ (base = base' ∧ kind = kind')) :
    Clear g t₀ (Artifact.standard g.settings base kind)
      (t₀.destination (Artifact.standard g.settings base' kind').target) := by
  rw [Artifact.destination_target h.standard hkind' hbase']
  refine ⟨?_, fun hprefix => hne ?_⟩
  · unfold Artifact.slot
    rw [← List.append_assoc]
    exact stub_ne_source hkind _ _ _ _ _ _
  · rw [Artifact.destination_target h.standard hkind hbase, List.prefix_append_right_inj] at hprefix
    exact Artifact.slot_prefix hkind hkind' hprefix

/-- A standard artifact neither is the routes file nor stands on the way to it. -/
theorem clear_routes (h : Orderly g t₀) (hkind : kind ∈ Kind.builtin) (hbase : Plain base) :
    Clear g t₀ (Artifact.standard g.settings base kind)
      (t₀.destination g.settings.routesPath) := by
  rw [Artifact.destination_routes h.standard]
  have hfile : Route.defaultSegments =
      [Text.ofString "routes"] ++ [Text.ofString "api" ++ ".php"] := rfl
  refine ⟨?_, fun hprefix => ?_⟩
  · rw [hfile, ← List.append_assoc]
    exact stub_ne_source hkind _ _ _ _ _ _
  · rw [Artifact.destination_target h.standard hkind hbase, List.prefix_append_right_inj] at hprefix
    exact Artifact.slot_routes hkind hprefix

end

end Scaffold.Run
