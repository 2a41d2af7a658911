import Scaffold.Proofs.Files.Confined
import Scaffold.Proofs.Files.Directories
import Scaffold.Proofs.Text.Encoding

/-!
# Where a file can be made

A file can be made where the system can express the path and no file is in the way (`Passable`):
then the directories that are missing can be made, one after another (`Passable.ensureDirectories`),
and the file in the last of them. Nothing else keeps an unforced write to a path without `..` from
writing where nothing stands (`Rooted.write_true_iff`).

The system's bounds are on bytes: of each name, and of the whole path. Both pass to shorter paths
(`Passable.shorten`), which is what the recursion over missing directories needs.

This is the only module in which the lengths of paths matter. Everywhere else an operation is known
to have succeeded, or what it leaves is the same however it failed.
-/

namespace Scaffold

open Files
open Program (after_of_ok bind_of_error bind_of_ok bind_ok_iff bind_get pure_ok_iff tryCatch_ok_iff)
open Utf8 (Bytes)

namespace Files

/-! ## Shorter paths -/

variable {t t' : Tree} {p : Path} {x : Address}

/-- What the system makes of a code point of a path before it encodes it. -/
def passed (c : CodePoint) : CodePoint := if isRawByte c then .char '?' else c

/-- The system can express a path if it can pass on each of its code points. -/
theorem defect?_eq_none_iff {p : Path} :
    p.defect? = none ↔ ∀ c ∈ p.toText, c.code ≠ 0 ∧ Utf8.isSurrogate (passed c) = false := by
  have hcodes : (∀ c ∈ p.toText, Utf8.isSurrogate (passed c) = false) ↔
      Utf8.unencodable? 0 (p.toText.map passed) = none := by
    rw [Utf8.unencodable?_eq_none_iff, List.forall_mem_map]
  have hdefect : p.defect? = if p.toText.any (·.code = 0) then some .nullInPath
      else (Utf8.unencodable? 0 (p.toText.map passed)).map Failure.unencodablePath := by
    unfold Path.defect?
    split
    · rfl
    · have hmap : (p.toText.map fun c => if isRawByte c then CodePoint.char '?' else c) =
          p.toText.map passed := rfl
      rw [hmap]
      cases Utf8.unencodable? 0 (p.toText.map passed) <;> rfl
  rw [hdefect]
  by_cases hzero : p.toText.any (·.code = 0) = true
  · rw [if_pos hzero]
    refine ⟨nofun, fun h => ?_⟩
    obtain ⟨c, hc, hcode⟩ := List.any_eq_true.mp hzero
    exact absurd (of_decide_eq_true hcode) (h c hc).1
  · have hall : ∀ c ∈ p.toText, c.code ≠ 0 := by simpa using hzero
    rw [if_neg hzero, Option.map_eq_none_iff, ← hcodes]
    exact ⟨fun h c hc => ⟨hall c hc, h c hc⟩, fun h c hc => (h c hc).2⟩

/-- A part of a name is no longer than the name. -/
theorem byteLength_le {name name' : Text} (h : name <+: name') :
    byteLength name ≤ byteLength name' := by
  obtain ⟨rest, rfl⟩ := h
  unfold byteLength
  rw [List.flatMap_append, List.length_append]
  exact Nat.le_add_right _ _

/-- The text of a path begins with that of a shorter one, unless that is the point for the working
directory. -/
theorem toText_prefix (anchor : Anchor) {names segments : List Text} (h : names <+: segments) :
    (Path.mk anchor names).toText <+: (Path.mk anchor segments).toText ∨
      (Path.mk anchor names).toText = "." := by
  have hjoin := Text.join_prefix "/" h
  cases anchor with
  | root => exact Or.inl ((List.prefix_append_right_inj _).mpr hjoin)
  | doubleRoot => exact Or.inl ((List.prefix_append_right_inj _).mpr hjoin)
  | here =>
    cases names with
    | nil => exact Or.inr rfl
    | cons name names =>
      obtain ⟨rest, rfl⟩ := h
      exact Or.inl hjoin

/-! ## Ways that can be gone -/

/-- The system can express the path, and there is no file on its way or at its end. -/
structure Passable (t : Tree) (p : Path) : Prop where
  expressible : p.defect? = none
  short : byteLength p.toText ≤ maxPathLength
  names : ∀ name ∈ p.segments, byteLength name ≤ maxNameLength
  way : ∀ names content, names <+: p.segments →
    t.node? (t.start p.anchor ++ names) ≠ some (.file content)

/-- Where a path can be gone, so can what is left of it after some names. -/
theorem Passable.shorten (h : Passable t p) {names : List Text} (hnames : names <+: p.segments) :
    Passable t ⟨p.anchor, names⟩ := by
  have htext := toText_prefix p.anchor hnames
  refine ⟨?_, ?_, fun name hname => h.names name (hnames.subset hname),
    fun names' content hinitial => h.way names' content (hinitial.trans hnames)⟩
  · rcases htext with hinitial | hpoint
    · rw [defect?_eq_none_iff]
      exact fun c hc => defect?_eq_none_iff.mp h.expressible c (hinitial.subset hc)
    · rw [defect?_eq_none_iff, hpoint]
      decide
  · rcases htext with hinitial | hpoint
    · exact Nat.le_trans (byteLength_le hinitial) h.short
    · rw [hpoint]
      decide

/-- Making directories puts no file in the way. -/
theorem Passable.gains (h : Passable t p) (hgains : Gains t t') : Passable t' p := by
  refine ⟨h.expressible, h.short, h.names, fun names content hinitial hfile => ?_⟩
  rw [start_eq hgains.workingDirectory, hgains.file_iff] at hfile
  exact h.way names content hinitial hfile

theorem destination_of_down (hdown : Text.ofString ".." ∉ p.segments) :
    t.destination p = t.start p.anchor ++ p.segments :=
  foldl_stepTo hdown _

/-- At the end of a passable path nothing stands, or a directory. -/
theorem Passable.node? (h : Passable t p) (hdown : Text.ofString ".." ∉ p.segments) :
    t.node? (t.destination p) = none ∨ t.node? (t.destination p) = some .directory := by
  rw [destination_of_down hdown]
  rcases hnode : t.node? (t.start p.anchor ++ p.segments) with _ | _ | content
  · exact Or.inl rfl
  · exact Or.inr rfl
  · exact absurd hnode (h.way _ content (List.prefix_refl _))

/-- A way without files can be gone to its end, or as far as anything stands. -/
theorem walk_of_passable : ∀ {names : List Text} {a : Address}, Text.ofString ".." ∉ names →
    (∀ name ∈ names, byteLength name ≤ maxNameLength) →
    (∀ names' content, names' <+: names → t.node? (a ++ names') ≠ some (.file content)) →
      t.walk a names = .ok (a ++ names) ∨ t.walk a names = .error .noEntry := by
  intro names
  induction names with
  | nil =>
    intro a _ _ _
    rw [List.append_nil]
    exact Or.inl rfl
  | cons name rest ih =>
    intro a hdown hnames hway
    obtain ⟨hname, hrest⟩ := List.forall_mem_cons.mp hnames
    obtain ⟨hfirst, hdown⟩ := not_or.mp (mt List.mem_cons.mpr hdown)
    have hstep : Tree.stepTo a name = a ++ [name] := if_neg (Ne.symm hfirst)
    unfold Tree.walk
    rw [if_neg (Nat.not_lt.mpr hname), hstep]
    cases rest with
    | nil => exact Or.inl rfl
    | cons next rest =>
      -- Where nothing stands there is no way on, a directory is passed through, and a file is
      -- excluded.
      rcases hnode : t.node? (a ++ [name]) with _ | _ | content
      · exact Or.inr rfl
      · have hon := ih (a := a ++ [name]) hdown hrest fun names' content hinitial => by
          rw [← List.append_cons]
          exact hway _ content ((List.prefix_append_right_inj [name]).mpr hinitial)
        rw [← List.append_cons] at hon
        exact hon
      · exact absurd hnode (hway [name] content ⟨next :: rest, rfl⟩)

/-- A path that can be gone leads where its names say, unless something is missing on the way. -/
theorem Passable.address (h : Passable t p) (hdown : Text.ofString ".." ∉ p.segments) :
    Files.address p t = .ok (t.destination p) t ∨
      Files.address p t = .error (.refused .noEntry p) t := by
  rw [destination_of_down hdown]
  rcases walk_of_passable hdown h.names h.way with hwalk | hwalk
  · exact Or.inl (address_ok_iff.mpr ⟨rfl, h.expressible, h.short, hwalk⟩)
  · refine Or.inr ?_
    unfold Files.address
    rw [h.expressible, if_neg (Nat.not_lt.mpr h.short)]
    simp only [hwalk]

/-- In a directory that stands a passable path leads on. -/
theorem Passable.address_in {name : Text} {names : List Text} {anchor : Anchor}
    (h : Passable t ⟨anchor, names ++ [name]⟩)
    (hdirectory : isDirectory ⟨anchor, names⟩ t = .ok true t) :
    ∃ x, Files.address ⟨anchor, names ++ [name]⟩ t = .ok x t := by
  obtain ⟨_, d, hd, hstands⟩ := isDirectory_true_iff.mp hdirectory
  obtain ⟨_, _, _, hwalk⟩ := address_ok_iff.mp hd
  have hname : ¬ maxNameLength < byteLength name :=
    Nat.not_lt.mpr (h.names name (List.mem_append_right _ (List.mem_singleton.mpr rfl)))
  exact ⟨_, address_ok_iff.mpr ⟨rfl, h.expressible, h.short,
    (walk_concat name hstands hwalk).trans (if_neg hname)⟩⟩

/-! ## Making directories -/

theorem isDirectory_of_address (hx : Files.address p t = .ok x t)
    (hnode : t.node? x = some .directory) : isDirectory p t = .ok true t :=
  isDirectory_true_iff.mpr ⟨rfl, x, hx, hnode⟩

/-- A directory can be made where nothing stands in a directory. -/
theorem makeDirectory_of_free (hx : Files.address p t = .ok x t) (hnode : t.node? x = none) :
    makeDirectory p t = .ok () (t.set x .directory) := by
  unfold makeDirectory
  rw [bind_of_ok hx, bind_get, hnode]
  rfl

/-- A directory can be made where a passable path leads. -/
theorem Passable.ensureDirectory (h : Passable t p) (hdown : Text.ofString ".." ∉ p.segments)
    (hx : Files.address p t = .ok x t) : ∃ t', Files.ensureDirectory p t = .ok () t' := by
  obtain rfl := destination_of_address hx
  rcases h.node? hdown with hnode | hnode
  · exact ⟨_, tryCatch_ok_iff.mpr (Or.inl (makeDirectory_of_free hx hnode))⟩
  · exact ⟨t, ensureDirectory_again (isDirectory_of_address hx hnode)⟩

/-- Directories can be made along a passable path. -/
theorem Passable.ensureDirectories (h : Passable t p)
    (hdown : Text.ofString ".." ∉ p.segments) : ∃ t', Files.ensureDirectories p t = .ok () t' := by
  have hfrom : ∀ (reversed : List Text) (t : Tree), Passable t ⟨p.anchor, reversed.reverse⟩ →
      Text.ofString ".." ∉ reversed.reverse →
        ∃ t', ensureDirectoriesFrom p.anchor reversed t = .ok () t' := by
    intro reversed
    induction reversed with
    | nil =>
      intro t h hdown
      exact h.ensureDirectory hdown
        (address_ok_iff.mpr ⟨rfl, h.expressible, h.short, rfl⟩)
    | cons name above ih =>
      intro t h hdown
      have hinitial : above.reverse <+: (name :: above).reverse := by
        rw [List.reverse_cons]
        exact List.prefix_append _ _
      unfold ensureDirectoriesFrom
      rcases h.address hdown with hx | hnone
      · rcases h.node? hdown with hnode | hnode
        · exact ⟨_, tryCatch_ok_iff.mpr (Or.inl (makeDirectory_of_free hx hnode))⟩
        · have hdirectory := isDirectory_of_address hx hnode
          exact ⟨t, tryCatch_ok_iff.mpr (Or.inr ⟨_, t, makeDirectory_of_directory hdirectory,
            unlessDirectory_ok_iff.mpr ⟨rfl, hdirectory⟩⟩)⟩
      · -- The directories above are made first, and then there is one to make this one in.
        have hrefused : makeDirectory ⟨p.anchor, (name :: above).reverse⟩ t =
            .error (.refused .noEntry ⟨p.anchor, (name :: above).reverse⟩) t :=
          bind_of_error hnone _
        obtain ⟨t₁, hmade⟩ := ih t (h.shorten hinitial) fun hmem => hdown (hinitial.subset hmem)
        have hensured : Files.ensureDirectories ⟨p.anchor, above.reverse⟩ t = .ok () t₁ := by
          unfold Files.ensureDirectories
          rw [List.reverse_reverse]
          exact hmade
        have hpassable := h.gains (gains_of_made hensured)
        have hplace : ∃ x, Files.address ⟨p.anchor, (name :: above).reverse⟩ t₁ = .ok x t₁ := by
          rw [List.reverse_cons] at hpassable ⊢
          exact hpassable.address_in (ensureDirectories_directory hensured)
        obtain ⟨x, hx⟩ := hplace
        obtain ⟨t₂, hlast⟩ := hpassable.ensureDirectory hdown hx
        exact ⟨t₂, tryCatch_ok_iff.mpr
          (Or.inr ⟨_, t, hrefused, bind_ok_iff.mpr ⟨_, t₁, hmade, hlast⟩⟩)⟩
  have hp : p = ⟨p.anchor, p.segments.reverse.reverse⟩ := by rw [List.reverse_reverse]
  unfold Files.ensureDirectories
  rw [hp] at h
  exact hfrom p.segments.reverse t h (by rwa [List.reverse_reverse])

/-- Directories are made only where the first names of the path lead. -/
theorem ensureDirectories_apart (hdown : Text.ofString ".." ∉ p.segments) {u : Unit}
    (h : Files.ensureDirectories p t = .ok u t')
    (hx : ∀ names, names <+: p.segments → x ≠ t.start p.anchor ++ names) :
    t'.node? x = t.node? x := by
  -- Every directory that is made is a beginning of the path, and `x` is none.
  have hleaves := leaves_ensureDirectories
    (R := fun s s' => s.workingDirectory = t.workingDirectory →
      s'.workingDirectory = t.workingDirectory ∧ s'.node? x = s.node? x)
    (fun s hs => ⟨hs, rfl⟩) ?_ p ?_ t
  · rw [after_of_ok h] at hleaves
    exact (hleaves rfl).2
  · intro s s' s'' hfirst hlast hs
    obtain ⟨hs', hnode⟩ := hfirst hs
    obtain ⟨hs'', hnode'⟩ := hlast hs'
    exact ⟨hs'', hnode'.trans hnode⟩
  · intro q hanchor hinitial s hs
    rcases makeDirectory_cases q s with hsame | ⟨y, hy, hnode, hset⟩
    · rw [hsame]
      exact ⟨hs, rfl⟩
    · have hplace : y = t.start p.anchor ++ q.segments := by
        rw [destination_of_address hy, destination_of_down fun hmem => hdown (hinitial.subset hmem),
          hanchor, start_eq hs]
      have hfree : s.node? y ≠ some .directory := by
        rw [hnode]
        exact nofun
      have hne : ¬ y = x := fun heq => hx _ hinitial (heq.symm.trans hplace)
      rw [hset, Tree.node?_set s (ne_root hfree), if_neg hne]
      exact ⟨hs, rfl⟩

/-- On a way that was gone all names were short enough. -/
theorem walk_names : ∀ {names : List Text} {a y : Address}, t.walk a names = .ok y →
    ∀ name ∈ names, byteLength name ≤ maxNameLength := by
  intro names
  induction names with
  | nil => exact fun _ => nofun
  | cons name rest ih =>
    intro a y h
    unfold Tree.walk at h
    split at h
    next => cases h
    next hlength =>
      refine List.forall_mem_cons.mpr ⟨Nat.not_lt.mp hlength, ?_⟩
      cases rest with
      | nil => exact nofun
      | cons next rest =>
        dsimp only at h
        split at h
        next => exact ih h
        next => cases h
        next => cases h

/-! ## Making a file -/

/-- The test for existence sees that nothing stands there. -/
theorem Passable.pathExists (h : Passable t p) (hdown : Text.ofString ".." ∉ p.segments)
    (hfree : t.node? (t.destination p) = none) : Files.pathExists p t = .ok false t := by
  rcases h.address hdown with hx | hnone
  · rw [pathExists_of_address hx, hfree]
    rfl
  · have hnode : Files.node? p t = .ok none t := by
      unfold Files.node?
      rw [hnone]
    exact bind_of_ok hnode _

/-- Where a file was made the path was passable, and nothing stood at its end. -/
theorem Rooted.passable_of_write (h : Rooted t) {content : Text}
    (hdown : Text.ofString ".." ∉ p.segments)
    (hwrite : Artifact.write p content false t = .ok true t') :
    Passable t p ∧ t.node? (t.destination p) = none := by
  rcases Artifact.write_unforced hwrite with ⟨hfalse, _⟩ | ⟨_, hmissing, t₁, x, bytes, w⟩
  · cases hfalse
  · obtain ⟨_, hdefect, hlength, hwalk⟩ := address_ok_iff.mp w.leads
    have hfree : t.node? (t.destination p) = none := by
      rw [← w.place]
      exact h.write_free hdown hmissing w
    refine ⟨⟨hdefect, hlength, walk_names hwalk, fun names content hinitial hfile => ?_⟩, hfree⟩
    -- A file would still be there, but now there is a file further down the way.
    obtain ⟨rest, hsegments⟩ := hinitial
    rw [destination_of_down hdown, ← hsegments, ← List.append_assoc] at hfree
    have hrest : rest ≠ [] := by
      rintro rfl
      rw [List.append_nil, hfile] at hfree
      cases hfree
    have hstands : (t'.node? (t.start p.anchor ++ names ++ rest)).isSome = true := by
      rw [List.append_assoc, hsegments, ← destination_of_down hdown, ← w.place, w.node?_self]
      rfl
    have habove := Connected.above (h.write hwrite).connected _ hrest hstands
    obtain ⟨new, hnew⟩ := (Artifact.write_grows hwrite).file hfile
    rw [habove] at hnew
    cases hnew

/-- The directories for a path are made above the place where it leads. -/
theorem ensureDirectories_below {anchor : Anchor} {names : List Text} {name : Text}
    (hdown : Text.ofString ".." ∉ names ++ [name]) {u : Unit}
    (h : Files.ensureDirectories ⟨anchor, names⟩ t = .ok u t') :
    t'.node? (t.destination ⟨anchor, names ++ [name]⟩) =
      t.node? (t.destination ⟨anchor, names ++ [name]⟩) := by
  refine ensureDirectories_apart (fun hmem => hdown (List.mem_append_left _ hmem)) h ?_
  intro names' hnames' heq
  rw [destination_of_down hdown, List.append_cancel_left_eq] at heq
  have hlength : names'.length ≤ names.length := hnames'.length_le
  rw [← heq, List.length_append, List.length_singleton] at hlength
  omega

/-- Where the path is passable and nothing stands at its end, a file can be made, if the medium
takes its content. -/
theorem Passable.write {anchor : Anchor} {names : List Text} {name : Text} {content : Text}
    {bytes : Bytes} (h : Passable t ⟨anchor, names ++ [name]⟩)
    (hdown : Text.ofString ".." ∉ names ++ [name])
    (hfree : t.node? (t.destination ⟨anchor, names ++ [name]⟩) = none)
    (hencode : Utf8.encode content = .ok bytes)
    (htakes : t.medium (t.destination ⟨anchor, names ++ [name]⟩) [] bytes = none) :
    ∃ t', Artifact.write ⟨anchor, names ++ [name]⟩ content false t = .ok true t' := by
  have hmissing := h.pathExists hdown hfree
  have hparent : (Path.mk anchor (names ++ [name])).parent = ⟨anchor, names⟩ := by
    rw [Path.parent, List.dropLast_concat]
  have hinitial : names <+: names ++ [name] := List.prefix_append _ _
  obtain ⟨t₁, hmade⟩ :=
    (h.shorten hinitial).ensureDirectories fun hmem => hdown (hinitial.subset hmem)
  have hgains := gains_of_made hmade
  obtain ⟨x, hx⟩ := (h.gains hgains).address_in (ensureDirectories_directory hmade)
  have hplace : x = t.destination ⟨anchor, names ++ [name]⟩ :=
    (destination_of_address hx).trans (destination_eq hgains.workingDirectory _)
  have hnode : t₁.node? x ≠ some .directory := by
    rw [hplace, ensureDirectories_below hdown hmade, hfree]
    exact nofun
  have hedit := edit_of_address (fun _ => []) hx hnode hencode
    (by rw [hplace, hgains.medium]; exact htakes)
  refine ⟨t₁.set x (.file ([] ++ bytes)), ?_⟩
  rw [Artifact.write_missing content hmissing, hparent, bind_of_ok hmade, writeText_eq_edit,
    bind_of_ok hedit]
  rfl

/-- An unforced write to a path without `..`, of a content that the medium takes, writes exactly if
the path is passable and nothing stands at its end. -/
theorem Rooted.write_true_iff (h : Rooted t) {content : Text} {bytes : Bytes}
    (hdown : Text.ofString ".." ∉ p.segments) (hencode : Utf8.encode content = .ok bytes)
    (htakes : t.medium (t.destination p) [] bytes = none) :
    (∃ t', Artifact.write p content false t = .ok true t') ↔
      Passable t p ∧ t.node? (t.destination p) = none := by
  refine ⟨fun ⟨t', hwrite⟩ => h.passable_of_write hdown hwrite, fun ⟨hpassable, hfree⟩ => ?_⟩
  obtain ⟨anchor, segments⟩ := p
  rcases List.eq_nil_or_concat segments with rfl | ⟨names, name, rfl⟩
  · -- Without segments the path leads to the directory it starts from.
    have hstart : t.node? (t.start anchor) = none := hfree
    rw [h.start anchor] at hstart
    cases hstart
  · rw [List.concat_eq_append] at hpassable hdown hfree htakes ⊢
    exact hpassable.write hdown hfree hencode htakes

end Files

end Scaffold
