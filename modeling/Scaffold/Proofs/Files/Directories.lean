import Scaffold.Proofs.Files.Outcome

/-!
# Made directories

When directories were made for a path, a directory stands there (`ensureDirectories_directory`); and
where one stands, making directories does nothing (`ensureDirectories_again`). So a file that was
written can be written again in place.

Directories are made from the outermost that is missing, by recursion on the path without its last
segment, and the proofs follow that recursion. Of a directory that another program would make in the
meantime nothing is said; the operation tolerates it, but no tree here changes on its own.
-/

namespace Scaffold.Files

open Program (bind_of_ok bind_ok_iff bind_get tryCatch_ok_iff)

variable {p : Path} {t t' : Tree}

/-- What is a directory stays one. -/
theorem Grows.isDirectory (hgrows : Grows t t') (h : Files.isDirectory p t = .ok true t) :
    Files.isDirectory p t' = .ok true t' := by
  obtain ⟨_, x, hx, hdirectory⟩ := isDirectory_true_iff.mp h
  exact isDirectory_true_iff.mpr ⟨rfl, x, hgrows.address hx, hgrows.directory hdirectory⟩

/-- Where a directory stands, none can be made. -/
theorem makeDirectory_of_directory (h : isDirectory p t = .ok true t) :
    makeDirectory p t = .error (.refused .exists p) t := by
  obtain ⟨_, x, hx, hdirectory⟩ := isDirectory_true_iff.mp h
  unfold makeDirectory
  rw [bind_of_ok hx, bind_get, hdirectory]
  rfl

/-- Where one was made, it stands. -/
theorem makeDirectory_directory {u : Unit} (h : makeDirectory p t = .ok u t') :
    isDirectory p t' = .ok true t' := by
  obtain ⟨x, t₁, hx, hmade⟩ := bind_ok_iff.mp h
  obtain rfl := (reads_address p).tree_eq hx
  rw [bind_get] at hmade
  cases hnode : t₁.node? x with
  | some node =>
    rw [hnode] at hmade
    cases hmade
  | none =>
    rw [hnode] at hmade
    cases hmade
    have hfree : t₁.node? x ≠ some .directory := by
      rw [hnode]
      exact nofun
    exact isDirectory_true_iff.mpr ⟨rfl, x, (gains_set hnode).grows.address hx,
      node?_set_self hfree .directory⟩

/-- What is left of making a directory that is there already. -/
theorem unlessDirectory_ok_iff {failure : Failure} {u : Unit} :
    (do if ← isDirectory p then return () else throw failure : Access Unit) t = .ok u t' ↔
      t' = t ∧ isDirectory p t = .ok true t := by
  constructor
  · intro h
    obtain ⟨found, t₁, hfound, h⟩ := bind_ok_iff.mp h
    obtain rfl := (reads_isDirectory p).tree_eq hfound
    cases found with
    | true =>
      cases h
      exact ⟨rfl, hfound⟩
    | false => cases h
  · rintro ⟨rfl, h⟩
    exact bind_ok_iff.mpr ⟨true, t', h, rfl⟩

/-- One way or the other, a directory stands there in the end. -/
theorem ensureDirectory_directory {u : Unit} (h : ensureDirectory p t = .ok u t') :
    isDirectory p t' = .ok true t' := by
  rcases tryCatch_ok_iff.mp h with h | ⟨failure, t₁, _, h⟩
  · exact makeDirectory_directory h
  · obtain ⟨rfl, h⟩ := unlessDirectory_ok_iff.mp h
    exact h

theorem ensureDirectory_again (h : isDirectory p t = .ok true t) :
    ensureDirectory p t = .ok () t :=
  tryCatch_ok_iff.mpr (Or.inr ⟨_, t, makeDirectory_of_directory h,
    unlessDirectory_ok_iff.mpr ⟨rfl, h⟩⟩)

/-- A directory stands where directories were made. -/
theorem ensureDirectories_directory {u : Unit} (h : ensureDirectories p t = .ok u t') :
    isDirectory p t' = .ok true t' := by
  obtain ⟨anchor, segments⟩ := p
  unfold ensureDirectories at h
  cases hreversed : segments.reverse with
  | nil =>
    rw [hreversed] at h
    rw [List.reverse_eq_nil_iff.mp hreversed]
    exact ensureDirectory_directory h
  | cons name above =>
    rw [hreversed] at h
    have hsegments : segments = (name :: above).reverse := by
      rw [← hreversed, List.reverse_reverse]
    rw [hsegments]
    unfold ensureDirectoriesFrom at h
    rcases tryCatch_ok_iff.mp h with h | ⟨failure, t₁, _, h⟩
    · exact makeDirectory_directory h
    · split at h
      next =>
        -- The directories above were missing; what was made last is what counts.
        obtain ⟨_, t₂, _, h⟩ := bind_ok_iff.mp h
        exact ensureDirectory_directory h
      next =>
        obtain ⟨rfl, h⟩ := unlessDirectory_ok_iff.mp h
        exact h

/-- Where a directory stands, nothing is made. -/
theorem ensureDirectories_again (h : isDirectory p t = .ok true t) :
    ensureDirectories p t = .ok () t := by
  obtain ⟨anchor, segments⟩ := p
  unfold ensureDirectories
  cases hreversed : segments.reverse with
  | nil =>
    rw [List.reverse_eq_nil_iff.mp hreversed] at h
    exact ensureDirectory_again h
  | cons name above =>
    have hsegments : segments = (name :: above).reverse := by
      rw [← hreversed, List.reverse_reverse]
    rw [hsegments] at h
    unfold ensureDirectoriesFrom
    exact tryCatch_ok_iff.mpr (Or.inr ⟨_, t, makeDirectory_of_directory h,
      unlessDirectory_ok_iff.mpr ⟨rfl, h⟩⟩)

end Scaffold.Files
