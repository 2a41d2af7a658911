import Scaffold.Artifact.Write
import Scaffold.Proofs.Files.Outcome

/-!
# What writing an artifact comes to

A write that returns has left the tree alone, or has put the bytes of the content where its target
leads after the directories for it were made (`write_ok`). In both cases something stands at the
target afterwards, and no other file is different.

`Writing` holds all that is known of a write that has written: the tree before, the one with the
directories, and the one afterwards; the address, which is that of the target in the last two; and
the bytes, all of which the medium took. Failed writes are spoken of in `Proofs.Files.Failures`.
-/

namespace Scaffold.Artifact

open Files
open Program (after bind_of_ok bind_ok_iff pure_ok_iff)
open Utf8 (Bytes)

/-- An unforced write does nothing where something stands. -/
theorem write_existing {target : Path} {t : Tree} (content : Text)
    (h : pathExists target t = .ok true t) : write target content false t = .ok false t := by
  unfold write
  rw [bind_of_ok h]
  rfl

/-- Where nothing stands, directories are made before anything else happens. -/
theorem write_missing {target : Path} {t : Tree} (content : Text)
    (h : pathExists target t = .ok false t) :
    write target content false t =
      (do ensureDirectories target.parent; writeText target content; return true) t := by
  unfold write
  rw [bind_of_ok h]
  rfl

/-- How a file came to be written: directories were made for it, and its bytes were put where the
target leads then. -/
structure Writing (target : Path) (content : Text) (t t₁ t' : Tree) (x : Address)
    (bytes : Bytes) : Prop where
  made : ensureDirectories target.parent t = .ok () t₁
  leads : address target t₁ = .ok x t₁
  free : t₁.node? x ≠ some .directory
  encoded : Utf8.encode content = .ok bytes
  takes : t₁.medium x [] bytes = none
  tree : t' = t₁.set x (.file bytes)

/-- Everything that can come of a write that returns. What decides is whether something stood at
the target. -/
theorem write_ok {target : Path} {content : Text} {force written : Bool} {t t' : Tree}
    (h : write target content force t = .ok written t') :
    ∃ found, pathExists target t = .ok found t ∧
      (written = false ↔ found = true ∧ force = false) ∧ ((written = false ∧ t' = t) ∨
        (written = true ∧ ∃ t₁ x bytes, Writing target content t t₁ t' x bytes)) := by
  unfold write at h
  obtain ⟨found, t₁, hfound, hrest⟩ := bind_ok_iff.mp h
  obtain rfl := (reads_pathExists target).tree_eq hfound
  refine ⟨found, hfound, ?_⟩
  have hskips : (found && !force) = true ↔ found = true ∧ force = false := by
    rw [Bool.and_eq_true, Bool.not_eq_true']
  by_cases hskip : (found && !force) = true
  · rw [if_pos hskip] at hrest
    obtain ⟨rfl, rfl⟩ := pure_ok_iff.mp hrest
    exact ⟨⟨fun _ => hskips.mp hskip, fun _ => rfl⟩, Or.inl ⟨rfl, rfl⟩⟩
  · rw [if_neg hskip] at hrest
    obtain ⟨u, t₂, hmade, hrest⟩ := bind_ok_iff.mp hrest
    obtain ⟨u', t₃, hwritten, hrest⟩ := bind_ok_iff.mp hrest
    obtain ⟨rfl, rfl⟩ := pure_ok_iff.mp hrest
    rw [writeText_eq_edit] at hwritten
    obtain ⟨x, bytes, hx, hnode, hbytes, htakes, rfl⟩ := edit_ok hwritten
    refine ⟨⟨nofun, fun hboth => absurd (hskips.mpr hboth) hskip⟩, Or.inr ⟨rfl, t₂, x, bytes, ?_⟩⟩
    exact ⟨hmade, hx, hnode, hbytes, htakes, rfl⟩

/-- An unforced write leaves the tree alone, or finds nothing at the target and writes. -/
theorem write_unforced {target : Path} {content : Text} {written : Bool} {t t' : Tree}
    (h : write target content false t = .ok written t') :
    (written = false ∧ t' = t) ∨ (written = true ∧ pathExists target t = .ok false t ∧
      ∃ t₁ x bytes, Writing target content t t₁ t' x bytes) := by
  obtain ⟨found, hfound, hwritten, hsame | ⟨rfl, hwriting⟩⟩ := write_ok h
  · exact Or.inl hsame
  · cases found with
    | true => cases hwritten.mpr ⟨rfl, rfl⟩
    | false => exact Or.inr ⟨rfl, hfound, hwriting⟩

section

variable {target : Path} {content : Text} {force written : Bool} {t t₁ t' : Tree} {x : Address}
  {bytes : Bytes}

/-- Up to the write itself there are only new directories. -/
theorem Writing.gains (w : Writing target content t t₁ t' x bytes) : Gains t t₁ :=
  gains_of_made w.made

/-- The target leads to the same place after the write. -/
theorem Writing.leads_after (w : Writing target content t t₁ t' x bytes) :
    address target t' = .ok x t' := by
  rw [w.tree]
  exact (grows_set w.free bytes).address w.leads

/-- At the end the bytes stand where the target leads. -/
theorem Writing.node?_self (w : Writing target content t t₁ t' x bytes) :
    t'.node? x = some (.file bytes) := by
  rw [w.tree, node?_set_self w.free]

theorem Writing.node?_other (w : Writing target content t t₁ t' x bytes) {y : Address}
    (h : x ≠ y) : t'.node? y = t₁.node? y := by
  rw [w.tree, Tree.node?_set t₁ (ne_root w.free), if_neg h]

/-- Writing makes the tree grow. -/
theorem write_grows (h : write target content force t = .ok written t') : Grows t t' := by
  obtain ⟨_, _, _, ⟨_, rfl⟩ | ⟨_, t₁, x, bytes, w⟩⟩ := write_ok h
  · exact Grows.refl _
  · rw [w.tree]
    exact w.gains.grows.trans (grows_set w.free bytes)

/-- The address that is written to is where the names of the target lead. -/
theorem Writing.place (w : Writing target content t t₁ t' x bytes) : x = t.destination target := by
  rw [← destination_eq w.gains.workingDirectory]
  exact destination_of_address w.leads

/-- Every file but the one at the target is as it was. -/
theorem write_content? (h : write target content force t = .ok written t') {y : Address}
    (hy : t.destination target ≠ y) : t'.content? y = t.content? y := by
  obtain ⟨_, _, _, ⟨_, rfl⟩ | ⟨_, t₁, x, bytes, w⟩⟩ := write_ok h
  · rfl
  · rw [← w.gains.content? y]
    exact content?_congr fun _ => by rw [w.node?_other (w.place ▸ hy)]

/-- Something stands at the target afterwards, whether it was written or not. -/
theorem write_pathExists (h : write target content force t = .ok written t') :
    pathExists target t' = .ok true t' := by
  obtain ⟨found, hfound, hwritten, ⟨hfalse, rfl⟩ | ⟨_, t₁, x, bytes, w⟩⟩ := write_ok h
  · exact (hwritten.mp hfalse).1 ▸ hfound
  · refine pathExists_true_iff.mpr ⟨rfl, x, w.leads_after, ?_⟩
    rw [w.node?_self]
    rfl

/-- What was written can be read back by the same path. -/
theorem write_readBytes (h : write target content force t = .ok true t') :
    ∃ bytes, Utf8.encode content = .ok bytes ∧ readBytes target t' = .ok bytes t' := by
  obtain ⟨_, _, _, ⟨hfalse, _⟩ | ⟨_, t₁, x, bytes, w⟩⟩ := write_ok h
  · cases hfalse
  · exact ⟨bytes, w.encoded, readBytes_ok_iff.mpr ⟨rfl, x, w.leads_after, w.node?_self⟩⟩

/-- A file that the target does not lead to afterwards is as it was; the one it leads to is so
too, or holds the bytes of the content. -/
theorem write_file (h : write target content force t = .ok written t') {x : Address}
    {old : Bytes} (hfile : t.node? x = some (.file old)) :
    t'.node? x = some (.file old) ∨
      (address target t' = .ok x t' ∧
        ∃ bytes, Utf8.encode content = .ok bytes ∧ t'.node? x = some (.file bytes)) := by
  obtain ⟨_, _, _, ⟨_, rfl⟩ | ⟨_, t₁, y, bytes, w⟩⟩ := write_ok h
  · exact Or.inl hfile
  · by_cases hyx : y = x
    · subst hyx
      exact Or.inr ⟨w.leads_after, bytes, w.encoded, w.node?_self⟩
    · rw [w.node?_other hyx]
      exact Or.inl ((w.gains.file_iff x old).mpr hfile)

end

end Scaffold.Artifact
