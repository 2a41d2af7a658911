import Scaffold.Proofs.Files.Preservation

/-!
# Trees that hang together

In a file tree as there are on disks, whatever stands somewhere stands in a directory, and so does
the working directory (`Rooted`). Every operation puts something only in a directory, so that a tree
stays rooted (`Rooted.write`, `Rooted.register`). In a rooted tree an unforced write to a path
without `..` lands where nothing stood (`Rooted.write_free`).

A `Tree` as a type may hold entries without the directories around them. That would be more work to
rule out in the type than to assume where it matters, since operations need not know; so it is a
hypothesis of the theorems which speak of where a file lands, and one that any tree read from a disk
fulfils.
-/

namespace Scaffold

open Files
open Program (after_of_ok)
open Utf8 (Bytes)

namespace Files

/-- Whatever stands somewhere stands in a directory, and paths start from a directory. -/
structure Rooted (t : Tree) : Prop where
  connected : Connected t
  workingDirectory : t.node? t.workingDirectory = some .directory

theorem mem_of_lookup {x : Address} {node : Node} {es : List (Address × Node)}
    (h : Tree.lookup x es = some node) : (x, node) ∈ es := by
  induction es with
  | nil => cases h
  | cons e es ih =>
    unfold Tree.lookup at h
    split at h
    next heq =>
      cases h
      rw [← heq]
      exact List.mem_cons_self ..
    next => exact List.mem_cons_of_mem _ (ih h)

/-- Whether a tree is rooted can be told from its entries. -/
theorem rooted_of_entries {t : Tree}
    (h : ∀ e ∈ t.entries, t.node? e.1.dropLast = some .directory)
    (hstart : t.node? t.workingDirectory = some .directory) : Rooted t := by
  refine ⟨?_, hstart⟩
  intro x name hsome
  obtain ⟨node, hnode⟩ := Option.isSome_iff_exists.mp hsome
  unfold Tree.node? at hnode
  rw [if_neg (List.append_ne_nil_of_right_ne_nil x (List.cons_ne_nil name []))] at hnode
  have habove := h _ (mem_of_lookup hnode)
  rw [List.dropLast_concat] at habove
  exact habove

namespace Rooted

variable {t t' : Tree}

/-- A path starts at a directory. -/
theorem start (h : Rooted t) (anchor : Anchor) : t.node? (t.start anchor) = some .directory := by
  cases anchor with
  | here => exact h.workingDirectory
  | root => rfl
  | doubleRoot => rfl

/-- Above a directory there is a directory; above the root it is the root. -/
theorem dropLast (h : Rooted t) {x : Address} (hx : t.node? x = some .directory) :
    t.node? x.dropLast = some .directory := by
  rcases List.eq_nil_or_concat x with rfl | ⟨above, name, rfl⟩
  · exact hx
  · rw [List.concat_eq_append] at hx ⊢
    rw [List.dropLast_concat]
    exact h.connected (by rw [hx]; rfl)

/-- A way from a directory ends at a directory, or in one. -/
theorem walk (h : Rooted t) : ∀ {names : List Text} {a x : Address},
    t.node? a = some .directory → t.walk a names = .ok x →
      t.node? x = some .directory ∨
        ∃ above name, x = above ++ [name] ∧ t.node? above = some .directory := by
  intro names
  induction names with
  | nil =>
    intro a x ha hx
    cases hx
    exact Or.inl ha
  | cons name rest ih =>
    intro a x ha hx
    unfold Tree.walk at hx
    split at hx
    next => cases hx
    next =>
      cases rest with
      | nil =>
        cases hx
        -- The last step leads up, to a directory, or down, to a name in one.
        unfold Tree.stepTo
        split
        next => exact Or.inl (h.dropLast ha)
        next => exact Or.inr ⟨a, name, rfl, ha⟩
      | cons next rest =>
        dsimp only at hx
        split at hx
        next hdirectory => exact ih hdirectory hx
        next => cases hx
        next => cases hx

/-- Whatever is put where a path leads, but on no directory, is put into a directory. -/
theorem set (h : Rooted t) {p : Path} {x : Address} (hx : address p t = .ok x t)
    (hfree : t.node? x ≠ some .directory) (node : Node) : Rooted (t.set x node) := by
  obtain ⟨_, _, _, hwalk⟩ := address_ok_iff.mp hx
  rcases h.walk (h.start p.anchor) hwalk with hdirectory | ⟨above, name, rfl, habove⟩
  · exact absurd hdirectory hfree
  · -- Directories are elsewhere, and stay.
    have hkept : ∀ {y}, t.node? y = some .directory →
        (t.set (above ++ [name]) node).node? y = some .directory := by
      intro y hy
      rw [Tree.node?_set t (ne_root hfree), if_neg]
      · exact hy
      · intro heq
        exact hfree (heq ▸ hy)
    refine ⟨?_, hkept h.workingDirectory⟩
    intro y last hsome
    rw [Tree.node?_set t (ne_root hfree)] at hsome
    split at hsome
    next heq =>
      obtain ⟨rfl, _⟩ := List.append_inj' heq rfl
      exact hkept habove
    next => exact hkept (h.connected hsome)

/-- Making directories leaves the tree rooted. -/
theorem ensureDirectories (h : Rooted t) {p : Path} {u : Unit}
    (hmade : Files.ensureDirectories p t = .ok u t') : Rooted t' := by
  have hleaves := leaves_ensureDirectories (R := fun t t' => Rooted t → Rooted t')
    (fun _ h => h) (fun h h' hrooted => h' (h hrooted)) p ?_ t
  · rw [after_of_ok hmade] at hleaves
    exact hleaves h
  · -- A single directory is put where its path leads, if at all.
    intro p _ _ t hrooted
    rcases makeDirectory_cases p t with hsame | ⟨x, hx, hnode, hset⟩
    · rw [hsame]
      exact hrooted
    · rw [hset]
      exact hrooted.set hx (by rw [hnode]; exact nofun) _

/-- Writing an artifact leaves the tree rooted. -/
theorem write (h : Rooted t) {target : Path} {content : Text} {force written : Bool}
    (hwrite : Artifact.write target content force t = .ok written t') : Rooted t' := by
  obtain ⟨_, _, _, ⟨_, rfl⟩ | ⟨_, t₁, x, bytes, w⟩⟩ := Artifact.write_ok hwrite
  · exact h
  · rw [w.tree]
    exact (h.ensureDirectories w.made).set w.leads w.free _

/-- Registering a route leaves the tree rooted. -/
theorem register (h : Rooted t) {path : Path} {declaration : Text} {added : Bool}
    (hregister : Route.register path declaration t = .ok added t') : Rooted t' := by
  obtain ⟨t₁, x, old, text, hfile, hx, hnode, _, hcases⟩ := Route.register_ok hregister
  obtain ⟨_, hwrite⟩ := Route.ensureFile_ok hfile
  have hstarted := h.write hwrite
  rcases hcases with ⟨_, rfl, _⟩ | ⟨_, bytes, _, rfl⟩
  · exact hstarted
  · exact hstarted.set hx (ne_directory hnode) _

/-- An unforced write to a path without `..` lands where nothing stood. -/
theorem write_free (h : Rooted t) {target : Path} {content : Text} {t₁ : Tree} {x : Address}
    {bytes : Bytes} (htarget : Text.ofString ".." ∉ target.segments)
    (hmissing : pathExists target t = .ok false t)
    (w : Artifact.Writing target content t t₁ t' x bytes) : t.node? x = none :=
  Connected.no_detour h.connected htarget ⟨hmissing, t₁, w.made, w.leads⟩

end Rooted

end Files

end Scaffold
