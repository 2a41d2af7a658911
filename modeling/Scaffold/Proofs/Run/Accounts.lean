import Scaffold.Proofs.Files.Rooted
import Scaffold.Proofs.Run.Batch

/-!
# What a run does to the files

An unforced run makes a file for every outcome that says so, and the routes file if it is missing.
`Accounts` says this of two trees, for the targets of the files that were written in between: each
of them leads to a file where nothing stood, no two of them to the same, and no other file is
different, but for the routes file, which may have more at its end. One write and one registration
account for what they do (`accounts_write`), and accounts add up along a run (`Accounts.trans`).

The result for whole runs is `report_accounts_for_files`. Reading it from the report to the files,
every outcome that is not skipped has a new file of its own. Reading it from the files to the
report, every new file is one of those, or the routes file; and what was there is there, with the
same bytes, or with more at the end if it is the routes file. The numbers in the report count these
files.

Two conditions keep paths from leading astray. No target has a `..` in it, and neither has the path
of the routes file: with one, a path can come to lead to a file that was there all along, once a
directory on its way has been made, and that file would be emptied
(`Scaffold.Proofs.Files.Preservation`). And whatever stands somewhere stands in a directory
(`Rooted`), as on any real disk.

Nothing is asked of the backend, the stubs, the catalog or the clock, and nothing of the tables,
which may come up several times or not be readable.
-/

namespace Scaffold.Run

open Files (Address Grows Path Rooted Tree)
open Program (mapM_collect ok_of_passes passes)
open Utf8 (Bytes)

/-! ## Accounts -/

section

variable {t t' t'' : Tree} {p routes : Path} {x : Address} {targets targets' : List Path}
  {registered registered' : Bool}

/-- A place that a path has is one that the files are asked for by it. -/
theorem address_of_place? (h : place? t p = some x) : Files.address p t = .ok x t := by
  unfold place? at h
  rcases Files.address_cases p t with ⟨y, hy⟩ | ⟨failure, hfailure⟩
  · rw [hy] at h
    cases h
    exact hy
  · rw [hfailure] at h
    cases h

/-- A path that leads somewhere still does when the tree has grown. -/
theorem place?_grown (h : Grows t t') (hx : place? t p = some x) : place? t' p = some x :=
  place?_of_address (h.address (address_of_place? hx))

/-- A file stands there now that was not there before. -/
def Created (t t' : Tree) (x : Address) : Prop :=
  (∃ bytes, t'.node? x = some (.file bytes)) ∧ ∀ bytes, t.node? x ≠ some (.file bytes)

/-- The path leads to a file where nothing stood. -/
structure Placed (t t' : Tree) (p : Path) (x : Address) : Prop where
  place : place? t' p = some x
  free : t.node? x = none
  file : ∃ bytes, t'.node? x = some (.file bytes)

/-- Between the trees files were written to the targets, and a route was registered or not. -/
structure Accounts (routes : Path) (t t' : Tree) (targets : List Path) (registered : Bool) :
    Prop where
  grows : Grows t t'
  kept : ∀ {x old}, t.node? x = some (.file old) → ∃ new, t'.node? x = some (.file new) ∧
    old <+: new ∧ (new = old ∨ place? t' routes = some x)
  created : ∀ {x}, Created t t' x → (∃ target ∈ targets, place? t' target = some x) ∨
    (registered = true ∧ place? t' routes = some x)
  placed : ∀ target ∈ targets, ∃ x, Placed t t' target x
  distinct : targets.Pairwise fun p q => place? t' p ≠ place? t' q
  routed : registered = true → ∃ x bytes, place? t' routes = some x ∧
    t'.node? x = some (.file bytes)

/-- Where nothing was written, nothing has to be accounted for. -/
theorem Accounts.refl (routes : Path) (t : Tree) : Accounts routes t t [] false where
  grows := Grows.refl t
  kept := fun h => ⟨_, h, List.prefix_refl _, Or.inl rfl⟩
  created := fun h => absurd h.1.choose_spec (h.2 _)
  placed := nofun
  distinct := List.Pairwise.nil
  routed := nofun

/-- Where something stands, something stood before only if it was there. -/
theorem none_of_grown (h : Grows t t') (hx : t'.node? x = none) : t.node? x = none := by
  cases hnode : t.node? x with
  | none => rfl
  | some node =>
    have hsome := h.isSome (show (t.node? x).isSome = true by rw [hnode]; rfl)
    rw [hx] at hsome
    cases hsome

/-- What was placed stays where it is. -/
theorem Placed.grown (h : Placed t t' p x) (hgrows : Grows t' t'') : Placed t t'' p x := by
  obtain ⟨bytes, hfile⟩ := h.file
  exact ⟨place?_grown hgrows h.place, h.free, hgrows.file hfile⟩

/-- What is placed later was not there earlier, either. -/
theorem Placed.earlier (h : Placed t' t'' p x) (hgrows : Grows t t') : Placed t t'' p x :=
  ⟨h.place, none_of_grown hgrows h.free, h.file⟩

/-- A new file was made in the second part unless it was there after the first. -/
theorem Accounts.created_trans (h : Accounts routes t t' targets registered)
    (h' : Accounts routes t' t'' targets' registered') (hx : Created t t'' x) :
    (∃ target ∈ targets ++ targets', place? t'' target = some x) ∨
      ((registered || registered') = true ∧ place? t'' routes = some x) := by
  by_cases hthere : ∃ bytes, t'.node? x = some (.file bytes)
  · rcases h.created ⟨hthere, hx.2⟩ with ⟨target, htarget, hplace⟩ | ⟨hregistered, hplace⟩
    · exact Or.inl ⟨target, List.mem_append_left _ htarget, place?_grown h'.grows hplace⟩
    · rw [hregistered]
      exact Or.inr ⟨rfl, place?_grown h'.grows hplace⟩
  · rcases h'.created ⟨hx.1, not_exists.mp hthere⟩ with ⟨target, htarget, hplace⟩ |
      ⟨hregistered, hplace⟩
    · exact Or.inl ⟨target, List.mem_append_right _ htarget, hplace⟩
    · rw [hregistered, Bool.or_true]
      exact Or.inr ⟨rfl, hplace⟩

/-- A file of the first part stands where one of the second part would find something. -/
theorem Accounts.distinct_trans (h : Accounts routes t t' targets registered)
    (h' : Accounts routes t' t'' targets' registered') :
    (targets ++ targets').Pairwise fun p q => place? t'' p ≠ place? t'' q := by
  refine List.pairwise_append.mpr ⟨?_, h'.distinct, ?_⟩
  · refine h.distinct.imp_of_mem ?_
    intro p q hp hq hne
    obtain ⟨x, hx⟩ := h.placed p hp
    obtain ⟨y, hy⟩ := h.placed q hq
    rw [(hx.grown h'.grows).place, (hy.grown h'.grows).place, ← hx.place, ← hy.place]
    exact hne
  · intro p hp q hq heq
    obtain ⟨x, hx⟩ := h.placed p hp
    obtain ⟨y, hy⟩ := h'.placed q hq
    rw [(hx.grown h'.grows).place, hy.place] at heq
    cases heq
    obtain ⟨bytes, hfile⟩ := hx.file
    rw [hy.free] at hfile
    cases hfile

/-- Accounts add up. -/
theorem Accounts.trans (h : Accounts routes t t' targets registered)
    (h' : Accounts routes t' t'' targets' registered') :
    Accounts routes t t'' (targets ++ targets') (registered || registered') where
  grows := h.grows.trans h'.grows
  kept := by
    intro x old hx
    obtain ⟨new, hnew, hprefix, hsame⟩ := h.kept hx
    obtain ⟨newer, hnewer, hprefix', hsame'⟩ := h'.kept hnew
    refine ⟨newer, hnewer, hprefix.trans hprefix', ?_⟩
    rcases hsame with rfl | hroutes
    · exact hsame'
    · exact Or.inr (place?_grown h'.grows hroutes)
  created := h.created_trans h'
  placed := by
    intro target htarget
    rcases List.mem_append.mp htarget with htarget | htarget
    · obtain ⟨x, hx⟩ := h.placed target htarget
      exact ⟨x, hx.grown h'.grows⟩
    · obtain ⟨x, hx⟩ := h'.placed target htarget
      exact ⟨x, hx.earlier h.grows⟩
  distinct := h.distinct_trans h'
  routed := by
    intro hregistered
    rcases Bool.or_eq_true_iff.mp hregistered with hfirst | hsecond
    · obtain ⟨x, bytes, hplace, hfile⟩ := h.routed hfirst
      obtain ⟨new, hnew⟩ := h'.grows.file hfile
      exact ⟨x, new, place?_grown h'.grows hplace, hnew⟩
    · exact h'.routed hsecond

/-- If all that was written is the routes file, it need not be told apart from registering. -/
theorem Accounts.registering (h : Accounts routes t t' targets registered)
    (hall : ∀ target ∈ targets, target = routes)
    (hrouted : ∃ x bytes, place? t' routes = some x ∧ t'.node? x = some (.file bytes)) :
    Accounts routes t t' [] true where
  grows := h.grows
  kept := h.kept
  created := by
    intro x hx
    rcases h.created hx with ⟨target, htarget, hplace⟩ | ⟨_, hplace⟩
    · rw [hall target htarget] at hplace
      exact Or.inr ⟨rfl, hplace⟩
    · exact Or.inr ⟨rfl, hplace⟩
  placed := nofun
  distinct := List.Pairwise.nil
  routed := fun _ => hrouted

/-! ## What the steps account for -/

/-- An unforced write accounts for its target if it wrote. -/
theorem accounts_write {target : Path} {content : Text} {written : Bool} (hrooted : Rooted t)
    (htarget : Text.ofString ".." ∉ target.segments)
    (h : Artifact.write target content false t = .ok written t') :
    Accounts routes t t' (if written then [target] else []) false := by
  have hgrows := Artifact.write_grows h
  rcases Artifact.write_unforced h with ⟨rfl, rfl⟩ | ⟨rfl, hmissing, t₁, x, bytes, w⟩
  · exact Accounts.refl routes t'
  · have hfree := hrooted.write_free htarget hmissing w
    have hother : ∀ {y content}, x ≠ y → (t'.node? y = some (.file content) ↔
        t.node? y = some (.file content)) := by
      intro y content hxy
      rw [w.node?_other hxy]
      exact w.gains.file_iff y content
    refine ⟨hgrows, ?_, ?_, ?_, List.pairwise_singleton _ _, nofun⟩
    · intro y old hy
      have hxy : x ≠ y := by
        intro heq
        subst heq
        rw [hfree] at hy
        cases hy
      exact ⟨old, (hother hxy).mpr hy, List.prefix_refl old, Or.inl rfl⟩
    · -- The one new file is at the target: anywhere else the files are as they were.
      intro y hy
      obtain ⟨⟨content, hcontent⟩, hnew⟩ := hy
      by_cases hxy : x = y
      · subst hxy
        exact Or.inl ⟨target, List.mem_singleton.mpr rfl, place?_of_address w.leads_after⟩
      · exact absurd ((hother hxy).mp hcontent) (hnew content)
    · intro target' htarget'
      rw [List.mem_singleton.mp htarget']
      exact ⟨x, place?_of_address w.leads_after, hfree, bytes, w.node?_self⟩

/-- Adding to the routes file accounts for a registration. -/
theorem accounts_append {old bytes : Bytes} (hx : Files.address routes t = .ok x t)
    (hfile : t.node? x = some (.file old)) :
    Accounts routes t (t.set x (.file (old ++ bytes))) [] true := by
  have hfree : t.node? x ≠ some .directory := Files.ne_directory hfile
  have hgrows := Files.grows_set hfree (old ++ bytes)
  have hplace := place?_of_address (hgrows.address hx)
  have hself := Files.node?_set_self hfree (.file (old ++ bytes))
  have hother : ∀ {y}, x ≠ y → (t.set x (.file (old ++ bytes))).node? y = t.node? y := by
    intro y hxy
    rw [Tree.node?_set t (Files.ne_root hfree), if_neg hxy]
  refine ⟨hgrows, ?_, ?_, nofun, List.Pairwise.nil, fun _ => ⟨x, _, hplace, hself⟩⟩
  · intro y kept hy
    by_cases hxy : x = y
    · subst hxy
      rw [hfile] at hy
      cases hy
      exact ⟨_, hself, List.prefix_append old bytes, Or.inr hplace⟩
    · rw [← hother hxy] at hy
      exact ⟨kept, hy, List.prefix_refl kept, Or.inl rfl⟩
  · intro y hy
    obtain ⟨⟨content, hcontent⟩, hnew⟩ := hy
    by_cases hxy : x = y
    · exact absurd (hxy ▸ hfile) (hnew old)
    · rw [hother hxy] at hcontent
      exact absurd hcontent (hnew content)

/-- A registration accounts for itself, whether it starts the file, adds to it, or neither. -/
theorem accounts_register {declaration : Text} {added : Bool} (hrooted : Rooted t)
    (hroutes : Text.ofString ".." ∉ routes.segments)
    (h : Route.register routes declaration t = .ok added t') :
    Accounts routes t t' [] true := by
  obtain ⟨t₁, x, old, text, hfile, hx, hnode, _, hcases⟩ := Route.register_ok h
  obtain ⟨written, hwrite⟩ := Route.ensureFile_ok hfile
  have hall : ∀ target ∈ (if written then [routes] else []), target = routes := by
    intro target htarget
    cases written with
    | true => exact List.mem_singleton.mp htarget
    | false => cases htarget
  have hstarted : Accounts routes t t₁ [] true :=
    (accounts_write hrooted hroutes hwrite).registering hall
      ⟨x, old, place?_of_address hx, hnode⟩
  rcases hcases with ⟨_, rfl, _⟩ | ⟨_, bytes, _, rfl⟩
  · exact hstarted
  · exact hstarted.trans (accounts_append hx hnode)

end

/-! ## Outcomes and reports -/

/-- Whether a file was written for the outcome. -/
def Outcome.wrote (o : Outcome) : Bool := o.stages.getLast? = some .written

/-- The targets to which files were written. -/
def writtenTargets (os : List Outcome) : List Path :=
  (os.filter Outcome.wrote).map fun o => o.artifact.target

/-- The targets that were written are gathered in the order of the outcomes. -/
theorem writtenTargets_append (os os' : List Outcome) :
    writtenTargets (os ++ os') = writtenTargets os ++ writtenTargets os' := by
  unfold writtenTargets
  rw [List.filter_append, List.map_append]

/-- The files are accounted for by outcomes, and by a registration if there was one. The statuses
of the outcomes tell which files were written. -/
structure AccountedFor (g : Generator) (s s' : Session) (os : List Outcome) (registered : Bool) :
    Prop where
  told : ∀ o ∈ os, o.wrote = true ↔ o.status ≠ .skipped
  files : Rooted s.tree → Rooted s'.tree ∧
    Accounts g.settings.routesPath s.tree s'.tree (writtenTargets os) registered

section

variable {g : Generator} {s s' s'' : Session}

/-- Steps that leave the files as they are have an account without targets. -/
theorem accountedFor_of_tree (g : Generator) (h : s'.tree = s.tree) :
    AccountedFor g s s' [] false := by
  refine ⟨nofun, fun hrooted => ?_⟩
  rw [h]
  exact ⟨hrooted, Accounts.refl _ _⟩

/-- The accounts of two parts of a run make up that of both, if the second starts where the first
ends. -/
theorem AccountedFor.trans {os os' : List Outcome} {registered registered' : Bool}
    (h : AccountedFor g s s' os registered) (h' : AccountedFor g s' s'' os' registered') :
    AccountedFor g s s'' (os ++ os') (registered || registered') := by
  refine ⟨List.forall_mem_append.mpr ⟨h.told, h'.told⟩, ?_⟩
  intro hrooted
  obtain ⟨hrooted', haccounts⟩ := h.files hrooted
  obtain ⟨hrooted'', haccounts'⟩ := h'.files hrooted'
  rw [writtenTargets_append]
  exact ⟨hrooted'', haccounts.trans haccounts'⟩

/-- An outcome accounts for the file that it says was written. -/
theorem generateArtifact_accounts {m : Schema.Metadata} {a : Artifact} {o : Outcome}
    (htarget : Text.ofString ".." ∉ o.artifact.target.segments)
    (h : generateArtifact g m false a s = .ok o s') : AccountedFor g s s' [o] false := by
  obtain ⟨p, s₁, written, t, hproduce, hwrite, htree, _, ho⟩ := generateArtifact_ok h
  obtain ⟨hasked, _⟩ := produce_ok hproduce
  rw [hasked.tree] at hwrite
  subst htree
  have hwrote : o.wrote = written := by
    unfold Outcome.wrote
    rw [ho, List.getLast?_append]
    cases written <;> rfl
  refine ⟨?_, fun hrooted => ⟨hrooted.write hwrite, ?_⟩⟩
  · intro o' ho'
    rw [List.mem_singleton.mp ho', hwrote, ho]
    exact (iff_of_eq (Bool.not_eq_false written)).symm.trans (not_congr statusOf_skipped_iff.symm)
  · have htargets : writtenTargets [o] = if written then [a.target] else [] := by
      unfold writtenTargets
      rw [List.filter_cons, hwrote, ho]
      cases written <;> rfl
    rw [ho] at htarget
    rw [htargets]
    exact accounts_write hrooted htarget hwrite

/-- The artifacts of a table are accounted for, one after another. None of them counts for the
routes. -/
theorem generateArtifacts_account {m : Schema.Metadata} {as : List Artifact} {os : List Outcome}
    (htargets : ∀ o ∈ os, Text.ofString ".." ∉ o.artifact.target.segments)
    (h : as.mapM (generateArtifact g m false) s = .ok os s') : AccountedFor g s s' os false := by
  refine mapM_collect (R := fun s s' os => AccountedFor g s s' os false) ?_ AccountedFor.trans ?_ h
  · intro s
    exact accountedFor_of_tree g rfl
  · intro a o s s' ho hgenerate
    exact generateArtifact_accounts (htargets o ho) hgenerate

/-- A table accounts for its outcomes, and for its route if its columns could be read. -/
theorem generateTable_accounts {table : Text} {r : TableReport}
    (hroutes : Text.ofString ".." ∉ g.settings.routesPath.segments)
    (htargets : ∀ o ∈ r.outcomes, Text.ofString ".." ∉ o.artifact.target.segments)
    (h : generateTable g false table s = .ok r s') : AccountedFor g s s' r.outcomes r.succeeded := by
  rcases generateTable_ok h with ⟨columns, s₁, _, hidle, c, rfl⟩ | ⟨_, hidle, error, rfl⟩
  · have hopened : AccountedFor g s c.opened [] false :=
      accountedFor_of_tree g (c.learns.tree.trans hidle.tree)
    have hclosed : AccountedFor g c.closed s' [] true :=
      ⟨nofun, fun hrooted => ⟨hrooted.register c.registered,
        accounts_register hrooted hroutes c.registered⟩⟩
    have hall := (hopened.trans (generateArtifacts_account htargets c.generated)).trans hclosed
    rw [List.nil_append, List.append_nil] at hall
    exact hall
  · exact accountedFor_of_tree g hidle.tree

/-- The tables of a run account for their outcomes; a route counts as registered as soon as one of
them could be read. -/
theorem generateTables_account {tables : List Text} {rs : List TableReport}
    (hroutes : Text.ofString ".." ∉ g.settings.routesPath.segments)
    (htargets : ∀ r ∈ rs, ∀ o ∈ r.outcomes, Text.ofString ".." ∉ o.artifact.target.segments)
    (h : generateTables g false tables s = .ok rs s') :
    AccountedFor g s s' (rs.flatMap TableReport.outcomes) (rs.any TableReport.succeeded) := by
  refine mapM_collect (R := fun s s' rs => AccountedFor g s s' (rs.flatMap TableReport.outcomes)
    (rs.any TableReport.succeeded)) ?_ ?_ ?_ h
  · intro s
    exact accountedFor_of_tree g rfl
  · intro s s' s'' rs rs' hfirst hrest
    rw [List.flatMap_append, List.any_append]
    exact hfirst.trans hrest
  · intro table r s s' hr hgenerate
    rw [List.flatMap_singleton, List.any_cons, List.any_nil, Bool.or_false]
    exact generateTable_accounts hroutes (htargets r hr) hgenerate

end

/-! ## Runs -/

/-- The places of the targets, in their order. -/
def placesOf (t : Tree) (targets : List Path) : List Address := targets.filterMap (place? t)

/-- Targets that lead somewhere have one place each. -/
theorem map_some_placesOf {t : Tree} {targets : List Path}
    (h : ∀ target ∈ targets, ∃ x, place? t target = some x) :
    (placesOf t targets).map some = targets.map (place? t) := by
  unfold placesOf
  induction targets with
  | nil => rfl
  | cons target targets ih =>
    obtain ⟨⟨x, hx⟩, hrest⟩ := List.forall_mem_cons.mp h
    rw [List.filterMap_cons, hx, List.map_cons, List.map_cons, ih hrest, hx]

/-- What was written stands at as many places as there are targets. -/
theorem Accounts.places {routes : Path} {t t' : Tree} {targets : List Path} {registered : Bool}
    (h : Accounts routes t t' targets registered) :
    (placesOf t' targets).map some = targets.map (place? t') ∧ (placesOf t' targets).Nodup ∧
      ∀ x ∈ placesOf t' targets, Created t t' x := by
  have hplaces : (placesOf t' targets).map some = targets.map (place? t') := by
    refine map_some_placesOf fun target htarget => ?_
    obtain ⟨x, hx⟩ := h.placed target htarget
    exact ⟨x, hx.place⟩
  refine ⟨hplaces, ?_, ?_⟩
  · have hdistinct := List.pairwise_map.mpr h.distinct
    rw [← hplaces] at hdistinct
    exact (List.pairwise_map.mp hdistinct).imp fun hne heq => hne (congrArg some heq)
  · intro x hx
    obtain ⟨target, htarget, hplace⟩ := List.mem_filterMap.mp hx
    obtain ⟨y, hy⟩ := h.placed target htarget
    rw [hy.place] at hplace
    cases hplace
    refine ⟨hy.file, fun bytes hfile => ?_⟩
    rw [hy.free] at hfile
    cases hfile

/-- The routes file is new exactly if its path did not lead to anything. -/
theorem Accounts.routes_created_iff {routes : Path} {t t' : Tree} {targets : List Path}
    {registered : Bool} (h : Accounts routes t t' targets registered) (hrooted : Rooted t)
    (hroutes : Text.ofString ".." ∉ routes.segments) {x : Address} {bytes : Bytes}
    (hplace : place? t' routes = some x) (hfile : t'.node? x = some (.file bytes)) :
    Created t t' x ↔ Files.pathExists routes t ≠ .ok true t := by
  constructor
  · intro hcreated hexists
    obtain ⟨_, y, hy, hsome⟩ := Files.pathExists_true_iff.mp hexists
    have hsame := place?_of_address (h.grows.address hy)
    rw [hplace] at hsame
    cases hsame
    obtain ⟨node, hnode⟩ := Option.isSome_iff_exists.mp hsome
    cases node with
    | file old => exact hcreated.2 old hnode
    | directory =>
      rw [h.grows.directory hnode] at hfile
      cases hfile
  · intro hmissing
    refine ⟨⟨bytes, hfile⟩, fun old hold => hmissing ?_⟩
    have hsome : (t.node? x).isSome = true := by
      rw [hold]
      rfl
    have hthere := Files.Connected.address hrooted.connected h.grows hroutes
      (address_of_place? hplace) hsome
    exact Files.pathExists_true_iff.mpr ⟨rfl, x, hthere, hsome⟩

/-- A whole run is accounted for by its tables, as all else in it leaves the files alone. -/
theorem generate_accounts {g : Generator} {tables : List Text} {force : Option Bool}
    {s s' : Session} {r : Report} (h : generate g tables force s = .ok r s')
    (hforce : force.getD g.settings.forceOverwrite = false)
    (hroutes : Text.ofString ".." ∉ g.settings.routesPath.segments)
    (htargets : ∀ o ∈ r.outcomes, Text.ofString ".." ∉ o.artifact.target.segments) :
    ∃ registered, AccountedFor g s s' r.outcomes registered ∧
      (registered = true ↔ ∃ table ∈ tables, Readable g table) := by
  obtain ⟨entries, s₁, s₂, _, hlearns, _, _, htables, hidle⟩ := generate_ok h
  rw [hforce] at htables
  have hall : ∀ t ∈ r.tables, ∀ o ∈ t.outcomes,
      Text.ofString ".." ∉ o.artifact.target.segments :=
    fun t ht o ho => htargets o (List.mem_flatMap.mpr ⟨t, ht, ho⟩)
  -- Before and after the tables the files do not change.
  have haccounts := ((accountedFor_of_tree g hlearns.tree).trans
    (generateTables_account hroutes hall htables)).trans (accountedFor_of_tree g hidle.tree)
  rw [List.nil_append, List.append_nil, Bool.false_or, Bool.or_false] at haccounts
  exact ⟨_, haccounts, generateTables_succeeded htables⟩

/-- The report of an unforced run accounts for what the run did to the files. Provided that no
path involved has a segment `..`: every file is as it was, but for the routes file, which may have
more at its end; files are new exactly at the places where the report says that one was written,
which are as many as it counts, and at the place of the routes file if there was none and the
columns of some table can be read; and it counts every outcome as written or as skipped. -/
theorem report_accounts_for_files {g : Generator} {tables : List Text} {force : Option Bool}
    {s s' : Session} {r : Report} (h : generate g tables force s = .ok r s')
    (hforce : force.getD g.settings.forceOverwrite = false) (hrooted : Rooted s.tree)
    (hroutes : Text.ofString ".." ∉ g.settings.routesPath.segments)
    (htargets : ∀ o ∈ r.outcomes, Text.ofString ".." ∉ o.artifact.target.segments) :
    (∀ x old, s.tree.node? x = some (.file old) → ∃ new,
      s'.tree.node? x = some (.file new) ∧ old <+: new ∧
        (new = old ∨ place? s'.tree g.settings.routesPath = some x)) ∧
    (writtenTargets r.outcomes).Nodup ∧
    (∃ places : List Address,
      places.map some = (writtenTargets r.outcomes).map (place? s'.tree) ∧ places.Nodup ∧
        places.length = r.written ∧ ∀ x, Created s.tree s'.tree x ↔
          x ∈ places ∨ (place? s'.tree g.settings.routesPath = some x ∧
            Files.pathExists g.settings.routesPath s.tree ≠ .ok true s.tree ∧
            ∃ table ∈ tables, Readable g table)) ∧
    r.written + r.skipped = r.outcomes.length := by
  obtain ⟨registered, haccounted, hregistered⟩ := generate_accounts h hforce hroutes htargets
  obtain ⟨_, haccounts⟩ := haccounted.files hrooted
  obtain ⟨hplaces, hnodup, hcreated⟩ := haccounts.places
  refine ⟨fun x old => haccounts.kept, ?_, ⟨_, hplaces, hnodup, ?_, ?_⟩, r.written_add_skipped⟩
  · exact haccounts.distinct.imp fun hne heq => hne (congrArg (place? s'.tree) heq)
  · have hlength := congrArg List.length hplaces
    rw [List.length_map, List.length_map] at hlength
    rw [hlength, Report.written_eq, writtenTargets, List.length_map, ← List.countP_eq_length_filter]
    apply List.countP_congr
    intro o ho
    rw [haccounted.told o ho, decide_eq_true_iff]
  · intro x
    constructor
    · intro hx
      rcases haccounts.created hx with ⟨target, htarget, hplace⟩ | ⟨hroute, hplace⟩
      · exact Or.inl (List.mem_filterMap.mpr ⟨target, htarget, hplace⟩)
      · -- A new file that is no target is the routes file, which was not there then.
        obtain ⟨bytes, hfile⟩ := hx.1
        exact Or.inr ⟨hplace, (haccounts.routes_created_iff hrooted hroutes hplace hfile).mp hx,
          hregistered.mp hroute⟩
    · intro hx
      rcases hx with hx | ⟨hplace, hmissing, hreadable⟩
      · exact hcreated x hx
      · obtain ⟨y, bytes, hplace', hfile⟩ := haccounts.routed (hregistered.mpr hreadable)
        rw [hplace] at hplace'
        cases hplace'
        exact (haccounts.routes_created_iff hrooted hroutes hplace hfile).mpr hmissing

/-- A table that is generated twice, and one that is not there: one file is written for the two
outcomes, next to a routes file that was there already. -/
theorem report_accounts_for_files_users :
    let g := usersGenerator (.custom "fixed" fun _ _ => "class UserNote \x7b\x7d") .unreachable
    let s := usersSession noteStructure
      [(["routes"], .directory), (["routes", "api.php"], textFile Route.fileHeader)]
    ∃ r s', generate g ["users", "users", "posts"] (some false) s = .ok r s' ∧
      r.written = 1 ∧ r.skipped = 1 ∧
      s'.tree.node? ["structure.json"] = some (textFile noteStructure) ∧
      ∃ x, Created s.tree s'.tree x ∧ ∀ y, Created s.tree s'.tree y → y = x := by
  intro g s
  have hruns : passes (generate g ["users", "users", "posts"] (some false)) (fun r s' =>
      decide ((r.written = 1 ∧ r.skipped = 1) ∧
        (∀ o ∈ r.outcomes, Text.ofString ".." ∉ o.artifact.target.segments) ∧
        s'.tree.node? ["structure.json"] = some (textFile noteStructure))) s = true := by
    decide +kernel
  have hrooted : Rooted s.tree := by
    apply Files.rooted_of_entries <;> decide +kernel
  obtain ⟨r, s', hrun, htest⟩ := ok_of_passes hruns
  obtain ⟨⟨hwritten, hskipped⟩, htargets, hfile⟩ := of_decide_eq_true htest
  obtain ⟨_, _, ⟨places, _, _, hlength, hcreated⟩, _⟩ :=
    report_accounts_for_files hrun rfl hrooted (by decide +kernel) htargets
  -- The routes file was there, so the one place is that of the artifact.
  have hroutes : Files.pathExists g.settings.routesPath s.tree = .ok true s.tree := by
    rfl
  rw [hwritten] at hlength
  obtain ⟨x, rfl⟩ := List.length_eq_one_iff.mp hlength
  refine ⟨r, s', hrun, hwritten, hskipped, hfile, x, ?_, ?_⟩
  · exact (hcreated x).mpr (Or.inl (List.mem_singleton.mpr rfl))
  · intro y hy
    rcases (hcreated y).mp hy with hplace | ⟨_, hmissing, _⟩
    · exact List.mem_singleton.mp hplace
    · exact absurd hroutes hmissing

end Scaffold.Run
