import Scaffold.Proofs.Routes.Listing

/-!
# What failed writes and registrations leave

Whatever refuses a path or a directory does so before a file is opened, and then no file is
different (`Artifact.write_error`). Two things go wrong only when the file is open. A text without
an encoding is noticed then; and the medium may run short, after any number of the bytes. A write
has emptied the file by then, or made an empty one, and nothing is rolled back: what is left is the
part that was taken. A registration opens its file without emptying it, so that a failure leaves
every byte there was, and perhaps a new routes file with its first lines, or a part of the line
after them (`failures_leave`).

Nothing is said about failures that the access to files leaves out, such as permissions: these are
refusals as the others are, and come before a file is opened.
-/

namespace Scaffold

open Files
open Program (FailsOnly after after_of_error bind_error_iff bind_get bind_ok_iff error_of_bind_pure
  error_of_fails fails)
open Utf8 (Bytes)

namespace Files

/-! ## Where operations fail -/

/-- The failure comes from the path, before a file is opened: it is not about a text that was to be
written. -/
def Failure.OfPlace (failure : Failure) : Prop :=
  (∀ e, failure ≠ .unencodable e) ∧ ∀ message, failure ≠ .medium message

theorem ofPlace_refused (cause : Refusal) (p : Path) : (Failure.refused cause p).OfPlace :=
  ⟨nofun, nofun⟩

/-- Why a text does not get to a file that is open: it has no encoding, or the medium takes a part
of it only. -/
inductive Failure.OfText (t : Tree) (x : Address) (held : Bytes) (content : Text) : Failure → Prop
  | unencodable {e : Utf8.EncodeError} (h : Utf8.encode content = .error e) :
      OfText t x held content (.unencodable e)
  | medium {bytes : Bytes} {shortage : Shortage} (hbytes : Utf8.encode content = .ok bytes)
      (h : t.medium x held bytes = some shortage) :
      OfText t x held content (.medium shortage.message)

/-- Whether a text gets to a file depends on the medium and on what the file held. -/
theorem Failure.OfText.congr {t t' : Tree} (hmedium : t'.medium = t.medium) {x : Address}
    {held : Bytes} {content : Text} {failure : Failure} (h : failure.OfText t' x held content) :
    failure.OfText t x held content := by
  cases h with
  | unencodable hencode => exact .unencodable hencode
  | medium hbytes hshort => exact .medium hbytes (hmedium ▸ hshort)

/-- A path that cannot be expressed is refused for the place. -/
theorem ofPlace_of_defect {p : Path} {failure : Failure} (h : p.defect? = some failure) :
    failure.OfPlace := by
  unfold Path.defect? at h
  split at h
  next => cases h; exact ⟨nofun, nofun⟩
  next =>
    split at h
    next => cases h; exact ⟨nofun, nofun⟩
    next => cases h

/-- Following a path fails because of the place, and so does all that only looks. -/
theorem failsOnly_address (p : Path) : FailsOnly Failure.OfPlace (address p) := by
  intro t t' failure h
  unfold address at h
  split at h
  next hdefect =>
    cases h
    exact ofPlace_of_defect hdefect
  next =>
    split at h
    next => cases h; exact ofPlace_refused _ p
    next =>
      split at h
      next => cases h
      next => cases h; exact ofPlace_refused _ p

theorem failsOnly_node? (p : Path) : FailsOnly Failure.OfPlace (node? p) := by
  intro t t' failure h
  unfold node? at h
  split at h
  next => cases h
  next => cases h; exact ofPlace_refused _ _
  next => cases h

theorem failsOnly_pathExists (p : Path) : FailsOnly Failure.OfPlace (pathExists p) :=
  (failsOnly_node? p).bind fun _ => FailsOnly.pure _

theorem failsOnly_get : FailsOnly Failure.OfPlace (get : Access Tree) :=
  FailsOnly.of_returns fun t => ⟨t, t, rfl⟩

theorem failsOnly_modify (f : Tree → Tree) :
    FailsOnly Failure.OfPlace (modify f : Access Unit) :=
  FailsOnly.of_returns fun t => ⟨(), f t, rfl⟩

/-- Making a directory fails because of the place. -/
theorem failsOnly_makeDirectory (p : Path) : FailsOnly Failure.OfPlace (makeDirectory p) := by
  unfold makeDirectory
  refine (failsOnly_address p).bind fun x => failsOnly_get.bind fun t => ?_
  split
  next => exact FailsOnly.throw (ofPlace_refused _ p)
  next => exact failsOnly_modify fun _ => t.set x .directory

theorem failsOnly_unlessDirectory (p : Path) {failure : Failure} (h : failure.OfPlace) :
    FailsOnly Failure.OfPlace
      (do if ← isDirectory p then return () else throw failure : Access Unit) := by
  have hasked : FailsOnly Failure.OfPlace (isDirectory p) :=
    (failsOnly_node? p).bind fun _ => FailsOnly.pure _
  refine hasked.bind fun found => ?_
  split
  · exact FailsOnly.pure ()
  · exact FailsOnly.throw h

/-- Making all the directories that are missing fails because of the place. -/
theorem failsOnly_ensureDirectories (p : Path) :
    FailsOnly Failure.OfPlace (ensureDirectories p) := by
  have hone : ∀ q : Path, FailsOnly Failure.OfPlace (ensureDirectory q) := fun q =>
    (failsOnly_makeDirectory q).tryCatch fun _ h => failsOnly_unlessDirectory q h
  have hfrom : ∀ reversed : List Text,
      FailsOnly Failure.OfPlace (ensureDirectoriesFrom p.anchor reversed) := by
    intro reversed
    induction reversed with
    | nil => exact hone _
    | cons name above ih =>
      unfold ensureDirectoriesFrom
      refine (failsOnly_makeDirectory _).tryCatch fun failure hfailure => ?_
      split
      · exact ih.bind fun _ => hone _
      · exact failsOnly_unlessDirectory _ hfailure
  exact hfrom p.segments.reverse

/-- Opening a file fails because of the place: nothing has been written by then. -/
theorem failsOnly_openFile (p : Path) (keep : Bytes → Bytes) :
    FailsOnly Failure.OfPlace (openFile p keep) := by
  unfold openFile
  refine (failsOnly_address p).bind fun x => failsOnly_get.bind fun t => ?_
  split
  next => exact (FailsOnly.throw (ofPlace_refused _ p)).bind fun _ => FailsOnly.pure x
  next => exact (failsOnly_modify _).bind fun _ => FailsOnly.pure x
  next => exact (failsOnly_modify _).bind fun _ => FailsOnly.pure x

/-- A file is opened where no directory is. -/
theorem openFile_ok {p : Path} {keep : Bytes → Bytes} {t t' : Tree} {x : Address}
    (h : openFile p keep t = .ok x t') :
    address p t = .ok x t ∧ t.node? x ≠ some .directory := by
  obtain ⟨y, t₁, hy, hrest⟩ := bind_ok_iff.mp h
  obtain rfl := (reads_address p).tree_eq hy
  rw [bind_get] at hrest
  cases hnode : t₁.node? y with
  | none =>
    rw [hnode] at hrest
    cases hrest
    exact ⟨hy, by rw [hnode]; exact nofun⟩
  | some node =>
    rw [hnode] at hrest
    cases node with
    | directory => cases hrest
    | file content =>
      cases hrest
      exact ⟨hy, ne_directory hnode⟩

/-- How an edit fails: no file could be opened, and nothing is different; or the text does not get
to the file, and what was to be kept is left with the part that was taken. -/
theorem edit_error {p : Path} {keep : Bytes → Bytes} {content : Text} {failure : Failure}
    {t t' : Tree} (h : edit p keep content t = .error failure t') :
    (failure.OfPlace ∧ t' = t) ∨ ∃ x, failure.OfText t x (keep (held t x)) content ∧
      address p t = .ok x t ∧ t.node? x ≠ some .directory ∧ t' = t.set x
        (.file (keep (held t x) ++ t.taken x (keep (held t x)) (landed content))) := by
  have hleft : ∀ {x : Address}, address p t = .ok x t → t.node? x ≠ some .directory →
      t' = t.set x (.file (keep (held t x) ++ t.taken x (keep (held t x)) (landed content))) := by
    intro x hx hnode
    rw [← after_edit keep content hx hnode, after_of_error h]
  rcases edit_cases p keep content t with ⟨⟨failure', herror⟩, hno⟩ |
    ⟨x, hx, hnode, ⟨bytes, _, _, hok⟩ | ⟨bytes, shortage, hbytes, hshort, herror⟩ |
      ⟨e, hencode, herror⟩⟩
  · rw [h] at herror
    cases herror
    refine Or.inl ⟨?_, rfl⟩
    rcases bind_error_iff.mp h with hopen | ⟨x, t₁, hopen, _⟩
    · exact failsOnly_openFile p keep _ _ _ hopen
    · obtain ⟨hx, hnode⟩ := openFile_ok hopen
      exact absurd (hno x hx) hnode
  · rw [hok] at h
    cases h
  · obtain rfl : failure = .medium shortage.message := by
      rw [h] at herror
      cases herror
      rfl
    exact Or.inr ⟨x, .medium hbytes hshort, hx, hnode, hleft hx hnode⟩
  · obtain rfl : failure = .unencodable e := by
      rw [h] at herror
      cases herror
      rfl
    exact Or.inr ⟨x, .unencodable hencode, hx, hnode, hleft hx hnode⟩

end Files

/-! ## Artifacts -/

/-- How a write fails: before the target is open, and no file is different; or because the content
does not get to the target, which is left with the part of it that was taken. -/
theorem Artifact.write_error {target : Path} {content : Text} {force : Bool} {failure : Failure}
    {t t' : Tree} (h : write target content force t = .error failure t') :
    (failure.OfPlace ∧ ∀ x, t'.content? x = t.content? x) ∨
      ∃ t₁ x, failure.OfText t x [] content ∧
        (force = false → pathExists target t = .ok false t) ∧
        ensureDirectories target.parent t = .ok () t₁ ∧ address target t₁ = .ok x t₁ ∧
        t₁.node? x ≠ some .directory ∧
        t' = t₁.set x (.file (t.taken x [] (landed content))) := by
  unfold write at h
  rcases bind_error_iff.mp h with hfound | ⟨found, t₁, hfound, hrest⟩
  · have hreads := reads_pathExists target t
    rw [after_of_error hfound] at hreads
    exact Or.inl ⟨failsOnly_pathExists target _ _ _ hfound, fun _ => by rw [hreads]⟩
  · obtain rfl := (reads_pathExists target).tree_eq hfound
    -- A write that is skipped returns, so the failure comes from the directories or from the file.
    by_cases hskip : (found && !force) = true
    · rw [if_pos hskip] at hrest
      cases hrest
    · rw [if_neg hskip] at hrest
      rcases bind_error_iff.mp hrest with hmade | ⟨_, t₂, hmade, hrest⟩
      · have hgains := ensureDirectories_gains target.parent t₁
        rw [after_of_error hmade] at hgains
        exact Or.inl ⟨failsOnly_ensureDirectories _ _ _ _ hmade, hgains.content?⟩
      · have hgains := gains_of_made hmade
        rcases edit_error (error_of_bind_pure hrest) with ⟨hplace, rfl⟩ | ⟨x, htext, hx, hnode, rfl⟩
        · exact Or.inl ⟨hplace, hgains.content?⟩
        · have htaken : t₂.taken x [] (landed content) = t₁.taken x [] (landed content) := by
            rw [taken_congr hgains.medium]
          rw [List.nil_append, htaken]
          refine Or.inr ⟨t₂, x, htext.congr hgains.medium, ?_, hmade, hx, hnode, rfl⟩
          rintro rfl
          rw [Bool.not_false, Bool.and_true, Bool.not_eq_true] at hskip
          rw [hfound, hskip]

namespace Files

/-- Only the file at the address is different, which holds the bytes now. -/
def LeavesAt (t t' : Tree) (x : Address) (bytes : Bytes) : Prop :=
  t'.content? x = some bytes ∧ ∀ y ≠ x, t'.content? y = t.content? y

/-- Setting a file in a tree that gained directories leaves its bytes there and every other file. -/
theorem leavesAt_set {t t₁ : Tree} {x : Address} (hgains : Gains t t₁)
    (hnode : t₁.node? x ≠ some .directory) (bytes : Bytes) :
    LeavesAt t (t₁.set x (.file bytes)) x bytes := by
  refine ⟨content?_eq_some_iff.mpr (node?_set_self hnode _), fun y hy => ?_⟩
  rw [← hgains.content? y]
  exact content?_congr fun _ => by rw [Tree.node?_set t₁ (ne_root hnode), if_neg hy.symm]

end Files

/-- What a failed write leaves where it had opened its target. -/
theorem Artifact.write_error_leaves {target : Path} {content : Text} {force : Bool}
    {failure : Failure} {t t' : Tree} (h : write target content force t = .error failure t')
    (hdetour : (t.content? (t.destination target)).isSome = true →
      ¬ Detours t target (t.destination target)) :
    (failure.OfPlace ∧ ∀ x, t'.content? x = t.content? x) ∨
      (failure.OfText t (t.destination target) [] content ∧
        (t.content? (t.destination target) = none ∨ force = true) ∧
        LeavesAt t t' (t.destination target)
          (t.taken (t.destination target) [] (landed content))) := by
  rcases Artifact.write_error h with hplace | ⟨t₁, x, htext, hmissing, hmade, hx, hnode, rfl⟩
  · exact Or.inl hplace
  · have hgains := gains_of_made hmade
    obtain rfl : x = t.destination target := by
      rw [destination_of_address hx, destination_eq hgains.workingDirectory]
    refine Or.inr ⟨htext, ?_, leavesAt_set hgains hnode _⟩
    cases force with
    | true => exact Or.inr rfl
    | false =>
      refine Or.inl (Option.not_isSome_iff_eq_none.mp fun hsome => ?_)
      exact hdetour hsome ⟨hmissing rfl, t₁, hmade, hx⟩

/-! ## Routes -/

/-- How a registration fails: the file cannot be started, or only a part of its first lines gets
there; or nothing happens after it was started; or the line does not get to it as a whole. -/
theorem Route.register_error {path : Path} {declaration : Text} {failure : Failure}
    {t t' : Tree} (h : register path declaration t = .error failure t') :
    Artifact.write path fileHeader false t = .error failure t' ∨ ensureFile path t = .ok () t' ∨
      ∃ t₁ x old, ensureFile path t = .ok () t₁ ∧ address path t₁ = .ok x t₁ ∧
        t₁.node? x = some (.file old) ∧ failure.OfText t₁ x old (addition declaration) ∧
        t' = t₁.set x (.file (old ++ t₁.taken x old (landed (addition declaration)))) := by
  unfold register at h
  rcases bind_error_iff.mp h with hfile | ⟨_, t₁, hfile, hrest⟩
  · rw [ensureFile_eq] at hfile
    exact Or.inl (error_of_bind_pure hfile)
  · refine Or.inr ?_
    rcases bind_error_iff.mp hrest with htext | ⟨text, t₂, htext, hasked⟩
    · have hreads := reads_readText path t₁
      rw [after_of_error htext] at hreads
      exact Or.inl (hreads ▸ hfile)
    · obtain rfl := (reads_readText path).tree_eq htext
      by_cases hholds : Text.contains text (normalize declaration) = true
      · rw [if_pos hholds] at hasked
        cases hasked
      · rw [if_neg hholds] at hasked
        rcases edit_error (error_of_bind_pure hasked) with ⟨_, rfl⟩ | ⟨x, hfailure, hx, _, rfl⟩
        · exact Or.inl hfile
        · -- The file was read, so it is there, and all of it is kept.
          obtain ⟨bytes, _, hbytes, _⟩ := readText_ok_iff.mp htext
          obtain ⟨_, y, hy, hfound⟩ := readBytes_ok_iff.mp hbytes
          rw [hx] at hy
          cases hy
          rw [held_of_file hfound] at hfailure ⊢
          exact Or.inr ⟨t₂, x, bytes, hfile, hx, hfound, hfailure, rfl⟩

/-- What a failed registration leaves. -/
theorem Route.register_error_leaves {path : Path} {declaration : Text} {failure : Failure}
    {t t' : Tree} (h : register path declaration t = .error failure t')
    (hdetour : (t.content? (t.destination path)).isSome = true →
      ¬ Detours t path (t.destination path)) :
    (∀ x, t'.content? x = t.content? x) ∨
      (t.content? (t.destination path) = none ∧ LeavesAt t t' (t.destination path)
        (t.taken (t.destination path) [] (landed fileHeader))) ∨
      (failure.OfText t (t.destination path) (ground (t.content? (t.destination path)))
          (addition declaration) ∧
        LeavesAt t t' (t.destination path) (ground (t.content? (t.destination path)) ++
          t.taken (t.destination path) (ground (t.content? (t.destination path)))
            (landed (addition declaration)))) := by
  -- It fails while the file is started, while it is read, or while the line is added.
  rcases Route.register_error h with hwrite | hstarted | ⟨t₁, x, old, hfile, hx, hold, htext, rfl⟩
  · rcases Artifact.write_error_leaves hwrite hdetour with ⟨_, hsame⟩ | ⟨_, hnone, hleft⟩
    · exact Or.inl hsame
    · exact Or.inr (Or.inl ⟨hnone.resolve_right Bool.false_ne_true, hleft⟩)
  · obtain ⟨_, hwrite⟩ := ensureFile_ok hstarted
    rcases Artifact.write_unforced hwrite with ⟨_, rfl⟩ | ⟨_, hmissing, t₁, x, bytes, w⟩
    · exact Or.inl fun _ => rfl
    · -- The file was started and cannot be read: it holds the first lines, all of them.
      obtain rfl := w.place
      refine Or.inr (Or.inl ⟨Option.not_isSome_iff_eq_none.mp fun hsome =>
        hdetour hsome ⟨hmissing, t₁, w.made, w.leads⟩, ?_⟩)
      have hheader : bytes = landed fileHeader := by
        unfold landed
        rw [w.encoded]
      have htaken : t.taken (t.destination path) [] (landed fileHeader) = bytes := by
        rw [← hheader, ← taken_congr w.gains.medium]
        exact taken_of_none w.takes
      rw [htaken, w.tree]
      exact leavesAt_set w.gains w.free bytes
  · obtain ⟨_, hwrite⟩ := ensureFile_ok hfile
    have hgrows := Artifact.write_grows hwrite
    obtain rfl : x = t.destination path := by
      rw [destination_of_address hx, destination_eq hgrows.workingDirectory]
    obtain rfl := ensureFile_content? hfile hold hdetour
    have hnode : t₁.node? (t.destination path) ≠ some .directory := ne_directory hold
    refine Or.inr (Or.inr ⟨htext.congr hgrows.medium, ?_⟩)
    rw [taken_congr hgrows.medium]
    obtain ⟨hself, hothers⟩ := leavesAt_set (Gains.refl t₁) hnode (ground _ ++ t.taken _ _ _)
    exact ⟨hself, fun y hy => (hothers y hy).trans (Artifact.write_content? hwrite hy.symm)⟩

/-! ## What is left -/

/-- A write that fails leaves every file as it was, unless its content does not get to the target
that it has opened: then the target holds the part that the medium took, which is none of it if the
content has no encoding, and it was not there before or the write was forced. A registration that
fails leaves every byte of every file. It may have started the routes file, with as much of the
first lines as the medium took; and if its line did not get there as a whole, the part that did
stands at the end. -/
theorem failures_leave {t : Tree} {p : Path}
    (hdetour : (t.content? (t.destination p)).isSome = true → ¬ Detours t p (t.destination p)) :
    (∀ content force failure t', Artifact.write p content force t = .error failure t' →
      (failure.OfPlace ∧ ∀ x, t'.content? x = t.content? x) ∨
      (failure.OfText t (t.destination p) [] content ∧
        (t.content? (t.destination p) = none ∨ force = true) ∧
        LeavesAt t t' (t.destination p) (t.taken (t.destination p) [] (landed content)))) ∧
    ∀ declaration failure t', Route.register p declaration t = .error failure t' →
      (∀ x, t'.content? x = t.content? x) ∨
      (t.content? (t.destination p) = none ∧ LeavesAt t t' (t.destination p)
        (t.taken (t.destination p) [] (landed Route.fileHeader))) ∨
      (failure.OfText t (t.destination p) (Route.ground (t.content? (t.destination p)))
          (Route.addition declaration) ∧
        LeavesAt t t' (t.destination p) (Route.ground (t.content? (t.destination p)) ++
          t.taken (t.destination p) (Route.ground (t.content? (t.destination p)))
            (landed (Route.addition declaration)))) :=
  ⟨fun _ _ _ _ h => Artifact.write_error_leaves h hdetour,
    fun _ _ _ h => Route.register_error_leaves h hdetour⟩

/-- A file on a full medium: what is to replace it gets there in part, and so does a declaration;
the file beside it is as it was. -/
theorem failures_leave_full :
    let post : Address := ["Post.php"]
    let user : Address := ["User.php"]
    let t : Tree :=
      { workingDirectory := []
        entries := [(post, .file (landed "<?php post")), (user, .file (landed "<?php"))]
        medium := fun x _ _ => if x = user then some ⟨3, "No space left on device"⟩ else none }
    let path := Path.ofText "User.php"
    (∃ failure t', Artifact.write path "<?php new" true t = .error failure t' ∧
      t'.content? post = some (landed "<?php post")) ∧
    ∃ failure t', Route.register path "Route::get('/users')" t = .error failure t' ∧
      t'.content? post = some (landed "<?php post") := by
  intro post user t path
  have hexists : pathExists path t = .ok true t := rfl
  have hdetour : (t.content? (t.destination path)).isSome = true →
      ¬ Detours t path (t.destination path) := by
    intro _ h
    have hmissing := h.missing
    rw [hexists] at hmissing
    cases hmissing
  obtain ⟨hwrites, hregisters⟩ := failures_leave hdetour
  have hother : post ≠ t.destination path := by decide
  constructor
  · have hfails : fails (Artifact.write path "<?php new" true) (fun _ => true) t = true := by
      decide +kernel
    obtain ⟨failure, t', h, _⟩ := error_of_fails hfails
    refine ⟨failure, t', h, ?_⟩
    rcases hwrites _ true failure t' h with ⟨_, hsame⟩ | ⟨_, _, _, hothers⟩
    · exact hsame _
    · exact hothers _ hother
  · have hfails : fails (Route.register path "Route::get('/users')") (fun _ => true) t = true := by
      decide +kernel
    obtain ⟨failure, t', h, _⟩ := error_of_fails hfails
    refine ⟨failure, t', h, ?_⟩
    rcases hregisters _ failure t' h with hsame | ⟨_, _, hothers⟩ | ⟨_, _, hothers⟩
    · exact hsame _
    · exact hothers _ hother
    · exact hothers _ hother

/-- A write whose content has no encoding empties the file that it was to replace, and leaves an
empty file where there was none. -/
theorem failed_write_empties :
    let t : Tree :=
      { workingDirectory := [], entries := [(["User.php"], .file (landed "<?php old"))] }
    let broken : Text := [.surrogate 0]
    (fails (Artifact.write (Path.ofText "User.php") broken true) (fun _ => true) t = true ∧
      t.content? ["User.php"] = some (landed "<?php old") ∧
      (after (Artifact.write (Path.ofText "User.php") broken true) t).content? ["User.php"] =
        some []) ∧
    fails (Artifact.write (Path.ofText "Post.php") broken false) (fun _ => true) t = true ∧
      t.content? ["Post.php"] = none ∧
      (after (Artifact.write (Path.ofText "Post.php") broken false) t).content? ["Post.php"] =
        some [] := by
  decide +kernel

end Scaffold
