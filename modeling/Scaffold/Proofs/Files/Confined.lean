import Scaffold.Proofs.Files.Rooted

/-!
# Trees that differ at some sites

A write to a path without `..` puts a file where the names of the path lead, and directories on the
way there. So after some writes the tree is the same as before but for the sites that were written
to and for directories above them (`Confined`), and what stands elsewhere does not depend on the
order of the writes (`Built.unique`). What comes of a write at its own site is told by what stood
there before (`Rooted.write_node?`).

The relation is indexed by the list of sites, and sites are added at its end (`Confined.trans`).
`Built` adds what is needed to compare two trees that were built from the same one by different
runs: both are rooted, and something stands at every site.

The last part is about paths with `..`. A way is gone step by step (`walk_append`, `walk_concat`). A
path is steady in a tree if it does not come to lead to something old as the tree grows: what it
leads to then, if it was there before, it led to before. Paths without `..` are steady, and so are
paths that go through directories which are there (`Connected.steady_below`).
-/

namespace Scaffold

open Files
open Program (after_of_ok bind_ok_iff pure_ok_iff)
open Utf8 (Bytes)

namespace Files

/-! ## Sites -/

/-- Nothing is different but at the sites, and there are new directories only above them. -/
structure Confined (sites : List Address) (t t' : Tree) : Prop where
  grows : Grows t t'
  node : ∀ x ∉ sites, t'.node? x = t.node? x ∨
    (t.node? x = none ∧ t'.node? x = some .directory ∧ ∃ y ∈ sites, x <+: y)

namespace Confined

variable {sites sites' : List Address} {t t' t'' : Tree} {x : Address}

theorem refl (t : Tree) : Confined [] t t := ⟨Grows.refl t, fun _ _ => Or.inl rfl⟩

theorem mono (h : Confined sites t t') (hsites : ∀ y ∈ sites, y ∈ sites') :
    Confined sites' t t' := by
  refine ⟨h.grows, fun x hx => ?_⟩
  rcases h.node x (fun hmem => hx (hsites x hmem)) with hsame | ⟨hnone, hmade, y, hy, hprefix⟩
  · exact Or.inl hsame
  · exact Or.inr ⟨hnone, hmade, y, hsites y hy, hprefix⟩

theorem trans (h : Confined sites t t') (h' : Confined sites' t' t'') :
    Confined (sites ++ sites') t t'' := by
  refine ⟨h.grows.trans h'.grows, fun x hx => ?_⟩
  obtain ⟨hfirst, hlast⟩ := not_or.mp (mt List.mem_append.mpr hx)
  rcases h.node x hfirst with hsame | ⟨hnone, hmade, y, hy, hprefix⟩
  · rcases h'.node x hlast with hsame' | ⟨hnone', hmade', y, hy, hprefix⟩
    · exact Or.inl (hsame'.trans hsame)
    · exact Or.inr ⟨hsame ▸ hnone', hmade', y, List.mem_append_right _ hy, hprefix⟩
  · -- A directory that was made stays one.
    exact Or.inr ⟨hnone, h'.grows.directory hmade, y, List.mem_append_left _ hy, hprefix⟩

/-- What happens twice at a site is confined to it. -/
theorem again {y : Address} (h : Confined [y] t t') (h' : Confined [y] t' t'') :
    Confined [y] t t'' :=
  (h.trans h').mono (by simp)

/-- What stands neither at a site nor above one is as it was. -/
theorem apart (h : Confined sites t t') (hx : ∀ y ∈ sites, ¬ x <+: y) :
    t'.node? x = t.node? x := by
  rcases h.node x (fun hmem => hx x hmem (List.prefix_refl x)) with
    hsame | ⟨_, _, y, hy, hprefix⟩
  · exact hsame
  · exact absurd hprefix (hx y hy)

/-- What stood at no site is still there. -/
theorem kept (h : Confined sites t t') (hx : x ∉ sites) (hsome : (t.node? x).isSome = true) :
    t'.node? x = t.node? x := by
  rcases h.node x hx with hsame | ⟨hnone, _⟩
  · exact hsame
  · rw [hnone] at hsome
    cases hsome

/-- A file that stands at no site is as it was. -/
theorem content? (h : Confined sites t t') (hx : x ∉ sites) : t'.content? x = t.content? x := by
  unfold Tree.content?
  rcases h.node x hx with hsame | ⟨hnone, hmade, _⟩
  · rw [hsame]
  · rw [hnone, hmade]

/-- Putting something where no directory stands is confined to that site. -/
theorem set (hfree : t.node? x ≠ some .directory) (content : Bytes) :
    Confined [x] t (t.set x (.file content)) := by
  refine ⟨grows_set hfree content, fun y hy => Or.inl ?_⟩
  rw [Tree.node?_set t (ne_root hfree), if_neg]
  exact fun heq => hy (List.mem_singleton.mpr heq.symm)

/-- Making the directories for a path without `..` makes them above where it leads. -/
theorem ensureDirectories {target : Path} {u : Unit} (hdown : Text.ofString ".." ∉ target.segments)
    (h : Files.ensureDirectories target.parent t = .ok u t') :
    Confined [t.destination target] t t' := by
  have hleaves := leaves_ensureDirectories
    (R := fun t t' => Confined [t.destination target] t t')
    (fun t => (refl t).mono nofun) ?_ target.parent ?_ t
  · rw [after_of_ok h] at hleaves
    exact hleaves
  · intro t t' t'' h h'
    rw [destination_eq h.grows.workingDirectory] at h'
    exact h.again h'
  · -- A single directory is made where the first names of the path lead.
    intro q hanchor hprefix t
    rcases makeDirectory_cases q t with hsame | ⟨x, hx, hnode, hset⟩
    · rw [hsame]
      exact (refl t).mono nofun
    · have hway : q.segments <+: target.segments := hprefix.trans (List.dropLast_prefix _)
      have hplace : x = t.start target.anchor ++ q.segments := by
        rw [destination_of_address hx, Tree.destination, hanchor]
        exact foldl_stepTo (fun hmem => hdown (hway.subset hmem)) _
      have habove : x <+: t.destination target := by
        rw [hplace, Tree.destination, foldl_stepTo hdown]
        exact (List.prefix_append_right_inj _).mpr hway
      rw [hset]
      refine ⟨(gains_set hnode).grows, fun y _ => ?_⟩
      rcases (gains_set hnode).node y with hsame | ⟨hnone, hmade⟩
      · exact Or.inl hsame
      · refine Or.inr ⟨hnone, hmade, _, List.mem_singleton.mpr rfl, ?_⟩
        by_cases hxy : x = y
        · exact hxy ▸ habove
        · rw [Tree.node?_set t (ne_root (by rw [hnode]; exact nofun)), if_neg hxy, hnone] at hmade
          cases hmade

end Confined

end Files

/-- A write to a path without `..` is confined to where it leads. -/
theorem Artifact.write_confined {target : Path} {content : Text} {force written : Bool}
    {t t' : Tree} (hdown : Text.ofString ".." ∉ target.segments)
    (h : write target content force t = .ok written t') :
    Confined [t.destination target] t t' := by
  obtain ⟨_, _, _, ⟨_, rfl⟩ | ⟨_, t₁, x, bytes, w⟩⟩ := write_ok h
  · exact (Confined.refl _).mono nofun
  · rw [w.tree, w.place]
    exact (Confined.ensureDirectories hdown w.made).again (w.place ▸ Confined.set w.free bytes)

/-- A registration with a path without `..` is confined to where it leads, and there is a file
then. -/
theorem Route.register_confined {path : Path} {declaration : Text} {added : Bool} {t t' : Tree}
    (hdown : Text.ofString ".." ∉ path.segments)
    (h : register path declaration t = .ok added t') :
    Confined [t.destination path] t t' ∧ (t'.node? (t.destination path)).isSome = true := by
  obtain ⟨t₁, x, old, _, hfile, hx, hold, _, hcases⟩ := register_ok h
  obtain ⟨_, hwrite⟩ := ensureFile_ok hfile
  have hstarted := Artifact.write_confined hdown hwrite
  obtain rfl : x = t.destination path := by
    rw [destination_of_address hx, destination_eq hstarted.grows.workingDirectory]
  rcases hcases with ⟨_, rfl, _⟩ | ⟨_, bytes, _, rfl⟩
  · exact ⟨hstarted, by rw [hold]; rfl⟩
  · have hfree : t₁.node? (t.destination path) ≠ some .directory := ne_directory hold
    exact ⟨hstarted.again (Confined.set hfree _), by rw [node?_set_self hfree]; rfl⟩

namespace Files

/-! ## What is left at a site -/

/-- A write lets things be where something stands, unless it is forced. -/
def spares (force : Bool) (node : Option Node) : Bool := node.isSome && !force

/-- What stands at a site after a write, by what stood there before. -/
def leftBy (force : Bool) (content : Text) (node : Option Node) : Option Node :=
  if spares force node then node else (Utf8.encode content).toOption.map .file

/-- A write to a path without `..` depends on the tree by what stands where the path leads. -/
theorem Rooted.write_node? {t t' : Tree} {target : Path} {content : Text} {force written : Bool}
    (h : Rooted t) (hdown : Text.ofString ".." ∉ target.segments)
    (hwrite : Artifact.write target content force t = .ok written t') :
    written = !spares force (t.node? (t.destination target)) ∧
      t'.node? (t.destination target) =
        leftBy force content (t.node? (t.destination target)) ∧
      (t'.node? (t.destination target)).isSome = true := by
  obtain ⟨found, hfound, hwritten, hcases⟩ := Artifact.write_ok hwrite
  have hseen : found = (t.node? (t.destination target)).isSome := by
    cases found with
    | true =>
      obtain ⟨_, x, hx, hsome⟩ := pathExists_true_iff.mp hfound
      rw [← destination_of_address hx, hsome]
    | false =>
      rcases hcases with ⟨rfl, _⟩ | ⟨_, t₁, x, bytes, w⟩
      · cases (hwritten.mp rfl).1
      · rw [← w.place, h.write_free hdown hfound w]
        rfl
  unfold leftBy spares
  rw [← hseen]
  rcases hcases with ⟨rfl, rfl⟩ | ⟨rfl, t₁, x, bytes, w⟩
  · obtain ⟨rfl, rfl⟩ := hwritten.mp rfl
    exact ⟨rfl, rfl, hseen.symm⟩
  · have hnot : (found && !force) = false := by
      rw [← Bool.not_eq_true, Bool.and_eq_true, Bool.not_eq_true', ← hwritten]
      exact nofun
    rw [hnot, ← w.place, w.node?_self, w.encoded]
    exact ⟨rfl, rfl, rfl⟩

/-! ## Building at sites -/

/-- The tree was built from another by putting something at each of the sites. -/
structure Built (t₀ : Tree) (sites : List Address) (t : Tree) : Prop where
  rooted : Rooted t
  confined : Confined sites t₀ t
  stands : ∀ y ∈ sites, (t.node? y).isSome = true

namespace Built

variable {t₀ t t' : Tree} {sites sites' : List Address}

theorem nil (h : Rooted t₀) : Built t₀ [] t₀ := ⟨h, Confined.refl t₀, nofun⟩

/-- Where paths lead by their names stays the same. -/
theorem destination (h : Built t₀ sites t) (p : Path) : t.destination p = t₀.destination p :=
  destination_eq h.confined.grows.workingDirectory p

/-- One more site, at which something stands now. -/
theorem add {y : Address} (h : Built t₀ sites t) (hrooted : Rooted t')
    (hconfined : Confined [y] t t') (hstands : (t'.node? y).isSome = true) :
    Built t₀ (sites ++ [y]) t' := by
  refine ⟨hrooted, h.confined.trans hconfined, fun z hz => ?_⟩
  rcases List.mem_append.mp hz with hz | hz
  · exact hconfined.grows.isSome (h.stands z hz)
  · rw [List.mem_singleton.mp hz]
    exact hstands

/-- Writing an artifact adds its target to the sites. -/
theorem write {target : Path} {content : Text} {force written : Bool} (h : Built t₀ sites t)
    (hdown : Text.ofString ".." ∉ target.segments)
    (hwrite : Artifact.write target content force t = .ok written t') :
    Built t₀ (sites ++ [t₀.destination target]) t' := by
  rw [← h.destination]
  exact h.add (h.rooted.write hwrite) (Artifact.write_confined hdown hwrite)
    (h.rooted.write_node? hdown hwrite).2.2

/-- Registering a route adds the routes file to them. -/
theorem register {path : Path} {declaration : Text} {added : Bool} (h : Built t₀ sites t)
    (hdown : Text.ofString ".." ∉ path.segments)
    (hregister : Route.register path declaration t = .ok added t') :
    Built t₀ (sites ++ [t₀.destination path]) t' := by
  obtain ⟨hconfined, hstands⟩ := Route.register_confined hdown hregister
  rw [← h.destination]
  exact h.add (h.rooted.register hregister) hconfined hstands

/-- Above a site there are directories only. -/
theorem above (h : Built t₀ sites t) {x y : Address} (hy : y ∈ sites) (hway : x <+: y)
    (hne : x ≠ y) : t.node? x = some .directory := by
  obtain ⟨names, rfl⟩ := hway
  refine Connected.above h.rooted.connected x ?_ (h.stands _ hy)
  rintro rfl
  exact hne (List.append_nil x).symm

/-- Two trees that were built at the same sites have the same elsewhere. -/
theorem unique (h : Built t₀ sites t) (h' : Built t₀ sites' t')
    (hsites : ∀ y, y ∈ sites' ↔ y ∈ sites) {x : Address} (hx : x ∉ sites) :
    t'.node? x = t.node? x := by
  by_cases habove : ∃ y ∈ sites, x <+: y
  · obtain ⟨y, hy, hprefix⟩ := habove
    have hne : x ≠ y := fun heq => hx (heq ▸ hy)
    rw [h.above hy hprefix hne, h'.above ((hsites y).mpr hy) hprefix hne]
  · rw [h.confined.apart fun y hy hprefix => habove ⟨y, hy, hprefix⟩,
      h'.confined.apart fun y hy hprefix => habove ⟨y, (hsites y).mp hy, hprefix⟩]

end Built

/-! ## Paths that lead nowhere new -/

/-- Where something stands, the path leads in a grown tree only if it has led there before. -/
def Steady (t : Tree) (p : Path) : Prop :=
  ∀ {t' x}, Grows t t' → address p t' = .ok x t' → (t.node? x).isSome = true →
    address p t = .ok x t

theorem Connected.steady {t : Tree} (h : Connected t) {p : Path}
    (hdown : Text.ofString ".." ∉ p.segments) : Steady t p :=
  fun hgrows hx hsome => Connected.address h hgrows hdown hx hsome

/-- A way to a directory goes on from there. -/
theorem walk_append {t : Tree} {d : Address} {further : List Text}
    (hd : t.node? d = some .directory) (hfurther : further ≠ []) :
    ∀ {names : List Text} {a : Address}, t.walk a names = .ok d →
      t.walk a (names ++ further) = t.walk d further := by
  intro names
  induction names with
  | nil =>
    intro a h
    cases h
    rfl
  | cons first rest ih =>
    intro a h
    rw [List.cons_append]
    unfold Tree.walk at h
    split at h
    next => cases h
    next hlength =>
      rw [Tree.walk.eq_def]
      dsimp only
      rw [if_neg hlength]
      -- The last name of a walk need not be there. It is here, as a directory, so the walk can go
      -- on from it.
      cases rest with
      | nil =>
        cases h
        obtain ⟨next, others, rfl⟩ := List.exists_cons_of_ne_nil hfurther
        rw [List.nil_append]
        dsimp only
        rw [hd]
      | cons next rest =>
        dsimp only [List.cons_append] at h ⊢
        split at h
        next => exact ih h
        next => cases h
        next => cases h

/-- The way to a name in a directory can be gone unless the name is too long. -/
theorem walk_concat {t : Tree} {d a : Address} {names : List Text} (name : Text)
    (hd : t.node? d = some .directory) (h : t.walk a names = .ok d) :
    t.walk a (names ++ [name]) =
      if maxNameLength < byteLength name then .error .nameTooLong else .ok (Tree.stepTo d name) :=
  (walk_append hd (List.cons_ne_nil _ _) h).trans rfl

/-- What stands below a directory that is there is found already, even if the path to the directory
has detours. -/
theorem Connected.steady_below {t : Tree} (h : Connected t) {directory : Path} {names : List Text}
    (hthere : isDirectory directory t = .ok true t) (hdown : Text.ofString ".." ∉ names)
    (hnames : names ≠ []) : Steady t ⟨directory.anchor, directory.segments ++ names⟩ := by
  obtain ⟨_, d, hd, hstands⟩ := isDirectory_true_iff.mp hthere
  obtain ⟨_, _, _, hwalk⟩ := address_ok_iff.mp hd
  intro t' x hgrows hx hsome
  obtain ⟨_, hdefect, hlength, hwalk'⟩ := address_ok_iff.mp hx
  -- The way in the grown tree is the way there was to the directory, and then leads down only.
  rw [start_eq hgrows.workingDirectory,
    walk_append (hgrows.directory hstands) hnames (hgrows.walk hwalk)] at hwalk'
  have hplace : x = d ++ names := (walk_eq_foldl hwalk').trans (foldl_stepTo hdown _)
  exact address_ok_iff.mpr ⟨rfl, hdefect, hlength,
    (walk_append hstands hnames hwalk).trans (h.walk hdown hwalk' (hplace ▸ hsome))⟩

/-- Where the file at a steady path is as it was, the same file is found. -/
theorem Steady.file_iff {t t' : Tree} {p : Path} (h : Steady t p) (hgrows : Grows t t')
    (hsame : t'.content? (t.destination p) = t.content? (t.destination p)) (content : Bytes) :
    node? p t' = .ok (some (.file content)) t' ↔ node? p t = .ok (some (.file content)) t := by
  constructor
  · intro hnode
    obtain ⟨x, hx, hfile⟩ := node?_some hnode
    have hplace : x = t.destination p :=
      (destination_of_address hx).trans (destination_eq hgrows.workingDirectory p)
    rw [← content?_eq_some_iff, hplace, hsame, ← hplace, content?_eq_some_iff] at hfile
    rw [node?_of_address (h hgrows hx (by rw [hfile]; rfl)), hfile]
  · intro hnode
    obtain ⟨x, hx, hfile⟩ := node?_some hnode
    rw [← content?_eq_some_iff, destination_of_address hx, ← hsame, ← destination_of_address hx,
      content?_eq_some_iff] at hfile
    rw [node?_of_address (hgrows.address hx), hfile]

end Files

end Scaffold
