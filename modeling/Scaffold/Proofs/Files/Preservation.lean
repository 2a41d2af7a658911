import Scaffold.Proofs.Routes

/-!
# What writing and registering leave of the files there are

An artifact is written unforced, and a routes file is started, where nothing stands at the path.
But the directories that the path needs are made after that test, and a path that leads through a
directory that was not there, and out of it again with `..`, may then lead to a file that has been
there all along. `Detours` says when that happens, and it is all that can go wrong: every other
file is kept (`write_keeps`, `register_keeps`), and a file that is reached on a detour is lost
(`write_detour`, `register_detour`). Paths without `..` make no detours in a tree whose files
stand in directories (`Connected.no_detour`).
-/

namespace Scaffold

open Files
open Program (after after_of_ok after_of_error after_of_eq after_bind_pure bind_of_ok
  bind_of_error)
open Utf8 (Bytes)

namespace Files

/-! ## Detours -/

/-- Nothing stands at the path, but once the directories it needs are made, it leads to the
address. -/
structure Detours (t : Tree) (p : Path) (x : Address) : Prop where
  missing : pathExists p t = .ok false t
  arrives : ∃ t', ensureDirectories p.parent t = .ok () t' ∧ address p t' = .ok x t'

/-- Whatever stands somewhere stands in a directory. -/
def Connected (t : Tree) : Prop :=
  ∀ {x : Address} {name : Text}, (t.node? (x ++ [name])).isSome → t.node? x = some .directory

/-- Above anything that stands somewhere there are directories only. -/
theorem Connected.above {t : Tree} (h : Connected t) (x : Address) :
    ∀ {names : List Text}, names ≠ [] → (t.node? (x ++ names)).isSome →
      t.node? x = some .directory := by
  intro names
  induction names generalizing x with
  | nil => exact fun hne => absurd rfl hne
  | cons name rest ih =>
    intro _ hsome
    rw [List.append_cons] at hsome
    cases rest with
    | nil =>
      rw [List.append_nil] at hsome
      exact h hsome
    | cons next rest =>
      have hname := ih (x ++ [name]) (List.cons_ne_nil _ _) hsome
      exact h (by rw [hname]; rfl)

/-- Names other than `..` lead further down. -/
theorem foldl_stepTo {names : List Text} (h : Text.ofString ".." ∉ names) :
    ∀ x : Address, names.foldl Tree.stepTo x = x ++ names := by
  induction names with
  | nil =>
    intro x
    rw [List.append_nil]
    rfl
  | cons name rest ih =>
    intro x
    obtain ⟨hname, hrest⟩ := not_or.mp (mt List.mem_cons.mpr h)
    have hstep : Tree.stepTo x name = x ++ [name] := if_neg (Ne.symm hname)
    rw [List.foldl_cons, hstep, ih hrest, ← List.append_cons]

/-- Where something stands at the end of the names, the way down to it can be gone in the tree
as it is, if it can be gone in any. -/
theorem Connected.walk {t t' : Tree} (h : Connected t) :
    ∀ {names : List Text} {x y : Address}, Text.ofString ".." ∉ names →
      t'.walk x names = .ok y → (t.node? (x ++ names)).isSome → t.walk x names = .ok y := by
  intro names
  induction names with
  | nil => exact fun _ hwalk _ => hwalk
  | cons name rest ih =>
    intro x y hnames hwalk hsome
    obtain ⟨hname, hrest⟩ := not_or.mp (mt List.mem_cons.mpr hnames)
    have hstep : Tree.stepTo x name = x ++ [name] := if_neg (Ne.symm hname)
    unfold Tree.walk at hwalk ⊢
    split at hwalk
    next => cases hwalk
    next hlength =>
      rw [if_neg hlength]
      cases rest with
      | nil => exact hwalk
      | cons next rest =>
        rw [List.append_cons] at hsome
        -- Something stands at the end of the way, so every step of the way is a directory before
        -- the write as well.
        have hdirectory := h.above (x ++ [name]) (List.cons_ne_nil _ _) hsome
        dsimp only at hwalk ⊢
        rw [hstep] at hwalk ⊢
        rw [hdirectory]
        split at hwalk
        next => exact ih hrest hwalk hsome
        next => cases hwalk
        next => cases hwalk

/-- Where a path that leads down only leads in a grown tree, it led before if something stood
there. -/
theorem Connected.address {t t' : Tree} (h : Connected t) (hgrows : Grows t t') {p : Path}
    {x : Address} (hp : Text.ofString ".." ∉ p.segments) (hx : Files.address p t' = .ok x t')
    (hsome : (t.node? x).isSome = true) : Files.address p t = .ok x t := by
  obtain ⟨_, hdefect, hlength, hwalk⟩ := address_ok_iff.mp hx
  rw [start_eq hgrows.workingDirectory] at hwalk
  have hplace : x = t.start p.anchor ++ p.segments :=
    (walk_eq_foldl hwalk).trans (foldl_stepTo hp _)
  exact address_ok_iff.mpr ⟨rfl, hdefect, hlength, h.walk hp hwalk (hplace ▸ hsome)⟩

/-- A path that leads down only makes no detour to anything that stands in its directory. -/
theorem Connected.no_detour {t : Tree} (h : Connected t) {p : Path} {x : Address}
    (hp : Text.ofString ".." ∉ p.segments) (hdetour : Detours t p x) : t.node? x = none := by
  obtain ⟨hmissing, t', hmade, hx⟩ := hdetour
  cases hnode : t.node? x with
  | none => rfl
  | some node =>
    -- The way would have been open from the start, and the test would have seen the file.
    have hsome : (t.node? x).isSome = true := by
      rw [hnode]
      rfl
    have haddress := Connected.address h (gains_of_made hmade).grows hp hx hsome
    rw [pathExists_of_address haddress, hsome] at hmissing
    cases hmissing

/-! ## Edits -/

/-- An edit changes no file but the one its path leads to. -/
theorem edit_keeps {p : Path} {t : Tree} {x : Address} {old : Bytes} (keep : Bytes → Bytes)
    (content : Text) (hfile : t.node? x = some (.file old)) (hx : address p t ≠ .ok x t) :
    (after (edit p keep content) t).node? x = some (.file old) := by
  have hset : ∀ {y : Address} (bytes : Bytes), address p t = .ok y t →
      t.node? y ≠ some .directory → (t.set y (.file bytes)).node? x = some (.file old) := by
    intro y bytes hy hnode
    have hne : ¬ y = x := by
      intro heq
      subst heq
      exact hx hy
    rw [Tree.node?_set t (ne_root hnode), if_neg hne]
    exact hfile
  rcases edit_cases p keep content t with ⟨⟨_, herror⟩, _⟩ | ⟨y, hy, hnode, _⟩
  · rw [after_of_error herror]
    exact hfile
  · rw [after_edit keep content hy hnode]
    exact hset _ hy hnode

end Files

/-! ## Artifacts -/

namespace Artifact

/-- Once the directories are made, what remains is an edit. -/
theorem after_write_made {target : Path} {t t' : Tree} (content : Text)
    (h : pathExists target t = .ok false t)
    (hmade : ensureDirectories target.parent t = .ok () t') :
    after (write target content false) t = after (edit target (fun _ => []) content) t' := by
  have hwrite := write_missing content h
  rw [bind_of_ok hmade] at hwrite
  exact (after_of_eq hwrite).trans (after_bind_pure (writeText target content) true t')

/-- An unforced write keeps every file that it is not led to on a detour. -/
theorem write_keeps {target : Path} {t : Tree} {x : Address} {old : Bytes} (content : Text)
    (hfile : t.node? x = some (.file old)) (h : ¬ Detours t target x) :
    (after (write target content false) t).node? x = some (.file old) := by
  have hreads := reads_pathExists target t
  cases hexists : pathExists target t with
  | error failure t₁ =>
    rw [after_of_error hexists] at hreads
    have hwrite : write target content false t = .error failure t₁ := bind_of_error hexists _
    rw [after_of_error hwrite, hreads]
    exact hfile
  | ok found t₁ =>
    obtain rfl := (reads_pathExists target).tree_eq hexists
    cases found with
    | true =>
      rw [after_of_ok (write_existing content hexists)]
      exact hfile
    | false =>
      have hgains := ensureDirectories_gains target.parent t₁
      cases hmade : ensureDirectories target.parent t₁ with
      | error failure t₂ =>
        rw [after_of_error hmade] at hgains
        have hwrite := write_missing content hexists
        rw [bind_of_error hmade] at hwrite
        rw [after_of_error hwrite]
        exact (hgains.file_iff x old).mpr hfile
      | ok u t₂ =>
        -- Only here could the target lead to the file, and that would be the detour.
        rw [after_of_ok hmade] at hgains
        rw [after_write_made content hexists hmade]
        apply edit_keeps _ content ((hgains.file_iff x old).mpr hfile)
        intro hx
        exact h ⟨hexists, t₂, hmade, hx⟩

/-- An unforced write replaces a file that it is led to on a detour. -/
theorem write_detour {target : Path} {t : Tree} {x : Address} {old : Bytes} (content : Text)
    (hfile : t.node? x = some (.file old)) (h : Detours t target x) :
    (after (write target content false) t).node? x =
      some (.file (t.taken x [] (landed content))) := by
  obtain ⟨hmissing, t', hmade, hx⟩ := h
  have hgains := gains_of_made hmade
  have hfile' := (hgains.file_iff x old).mpr hfile
  have hnode : t'.node? x ≠ some .directory := ne_directory hfile'
  rw [after_write_made content hmissing hmade, after_edit _ content hx hnode,
    node?_set_self hnode, List.nil_append, taken_congr hgains.medium]

end Artifact

/-! ## Routes -/

namespace Route

/-- A routes file that was started holds its first lines, or nothing is different; a file that the
path is led to on a detour is left out. -/
theorem ensureFile_contents {path : Path} {t t' : Tree} (h : ensureFile path t = .ok () t')
    (hdetour : (t.content? (t.destination path)).isSome = true →
      ¬ Detours t path (t.destination path)) :
    t' = t ∨ (t.content? (t.destination path) = none ∧
      t'.content? (t.destination path) = some (landed fileHeader) ∧
      ∀ x ≠ t.destination path, t'.content? x = t.content? x) := by
  obtain ⟨written, hwrite⟩ := ensureFile_ok h
  rcases Artifact.write_unforced hwrite with ⟨_, rfl⟩ | ⟨_, hmissing, t₁, x, bytes, w⟩
  · exact Or.inl rfl
  · obtain rfl := w.place
    refine Or.inr ⟨?_, ?_, fun y hy => Artifact.write_content? hwrite hy.symm⟩
    · rw [← Option.not_isSome_iff_eq_none]
      exact fun hsome => hdetour hsome ⟨hmissing, t₁, w.made, w.leads⟩
    · rw [content?_eq_some_iff, w.node?_self, landed, w.encoded]

/-- After the file is there, registering does nothing or adds the declaration. -/
theorem after_register {path : Path} {t t' : Tree} (declaration : Text)
    (hfile : ensureFile path t = .ok () t') :
    after (register path declaration) t = t' ∨
      after (register path declaration) t = after (edit path id (addition declaration)) t' := by
  cases htext : readText path t' with
  | error failure t₁ =>
    have hreads := reads_readText path t'
    rw [after_of_error htext] at hreads
    have hregister : register path declaration t = .error failure t₁ := by
      unfold register
      show (ensureFile path >>= fun _ => _) t = _
      rw [bind_of_ok hfile]
      exact bind_of_error htext _
    rw [after_of_error hregister]
    exact Or.inl hreads
  | ok text t₁ =>
    obtain rfl := (reads_readText path).tree_eq htext
    cases hholds : Text.contains text (normalize declaration) with
    | true => exact Or.inl (after_of_ok (register_present hfile htext hholds))
    | false => exact Or.inr (after_register_lacking hfile htext hholds)

/-- Registering keeps the content of every file that it is not led to on a detour, and at most
adds to it. -/
theorem register_keeps {path : Path} {t : Tree} {x : Address} {old : Bytes} (declaration : Text)
    (hfile : t.node? x = some (.file old)) (h : ¬ Detours t path x) :
    ∃ new, (after (register path declaration) t).node? x = some (.file new) ∧ old <+: new := by
  have hstarted := Artifact.write_keeps fileHeader hfile h
  rw [← after_ensureFile] at hstarted
  -- Starting the file keeps it, and what is then opened is kept and added to.
  cases hensure : ensureFile path t with
  | error failure t₁ =>
    have hregister : register path declaration t = .error failure t₁ := by
      unfold register
      exact bind_of_error hensure _
    rw [after_of_error hensure] at hstarted
    rw [after_of_error hregister]
    exact ⟨old, hstarted, List.prefix_refl old⟩
  | ok u t₁ =>
    rw [after_of_ok hensure] at hstarted
    rcases after_register declaration hensure with hafter | hafter <;> rw [hafter]
    · exact ⟨old, hstarted, List.prefix_refl old⟩
    · by_cases hx : address path t₁ = .ok x t₁
      · have hnode : t₁.node? x ≠ some .directory := ne_directory hstarted
        rw [after_edit id _ hx hnode, node?_set_self hnode,
          held_of_file hstarted]
        exact ⟨_, rfl, List.prefix_append _ _⟩
      · exact ⟨old, edit_keeps id _ hstarted hx, List.prefix_refl old⟩

/-- What registering leaves in a file that it starts: the first lines and what is added, as far as
the medium takes them. -/
def begun (t : Tree) (x : Address) (declaration : Text) : Bytes :=
  match t.medium x [] (landed fileHeader) with
  | none =>
    landed fileHeader ++ t.taken x (landed fileHeader) (landed (addition declaration))
  | some shortage => (landed fileHeader).take shortage.taken

/-- Registering replaces a file that it is led to on a detour. -/
theorem register_detour {path : Path} {t : Tree} {x : Address} {old : Bytes} (declaration : Text)
    (hfile : t.node? x = some (.file old)) (h : Detours t path x) :
    (after (register path declaration) t).node? x = some (.file (begun t x declaration)) := by
  obtain ⟨hmissing, t', hmade, hx⟩ := h
  have hgains := gains_of_made hmade
  have hfile' := (hgains.file_iff x old).mpr hfile
  have hnode : t'.node? x ≠ some .directory := ne_directory hfile'
  have hwrite := Artifact.write_missing fileHeader hmissing
  rw [bind_of_ok hmade, writeText_eq_edit] at hwrite
  have hbytes : Utf8.encode fileHeader = .ok (landed fileHeader) := rfl
  unfold begun
  cases hmedium : t.medium x [] (landed fileHeader) with
  | some shortage =>
    -- The first lines do not all get there, and this is where it ends.
    have hedit := edit_short (fun _ => []) hx hnode hbytes
      (by rw [hgains.medium]; exact hmedium)
    rw [bind_of_error hedit] at hwrite
    have hensure := ensureFile_eq path
    have hregister : after (register path declaration) t =
        t'.set x (.file ((landed fileHeader).take shortage.taken)) :=
      after_of_error (bind_of_error ((congrFun hensure t).trans (bind_of_error hwrite _)) _)
    rw [hregister, node?_set_self hnode]
  | none => ?_
  -- The file is started anew, ...
  have hensure : ensureFile path t = .ok () (t'.set x (.file (landed fileHeader))) := by
    have hedit := edit_of_address (fun _ => []) hx hnode hbytes
      (by rw [hgains.medium]; exact hmedium)
    rw [bind_of_ok hedit] at hwrite
    rw [ensureFile_eq]
    exact bind_of_ok hwrite _
  have hmedium' : (t'.set x (.file (landed fileHeader))).medium = t.medium := hgains.medium
  generalize hstarted : t'.set x (.file (landed fileHeader)) = t₁ at hensure hmedium'
  have hheader : t₁.node? x = some (.file (landed fileHeader)) := by
    rw [← hstarted, node?_set_self hnode]
  have hx₁ : address path t₁ = .ok x t₁ := by
    rw [← hstarted]
    exact (grows_set hnode _).address hx
  have hnode₁ : t₁.node? x ≠ some .directory := ne_directory hheader
  -- ... and lacks the declaration.
  have htext : readText path t₁ = .ok fileHeader t₁ :=
    readText_ok_iff.mpr ⟨landed fileHeader, fileHeader,
      readBytes_ok_iff.mpr ⟨rfl, x, hx₁, hheader⟩, rfl, by decide⟩
  rw [after_register_lacking hensure htext (fileHeader_lacks declaration),
    after_edit id _ hx₁ hnode₁, node?_set_self hnode₁, held_of_file hheader, taken_congr hmedium']
  rfl

end Route

/-- Unforced writes keep every file, and registering keeps what every file held, except for the
files that they are led to on a detour. There they leave what the medium takes of what is
written. -/
theorem keeps_files_iff_no_detour (t : Tree) (p : Path) (content declaration : Text) :
    ((∀ x old, t.node? x = some (.file old) →
        (after (Artifact.write p content false) t).node? x = some (.file old)) ↔
      ∀ x old, t.node? x = some (.file old) → Detours t p x →
        t.taken x [] (landed content) = old) ∧
    ((∀ x old, t.node? x = some (.file old) →
        ∃ new, (after (Route.register p declaration) t).node? x = some (.file new) ∧
          old <+: new) ↔
      ∀ x old, t.node? x = some (.file old) → Detours t p x →
        old <+: Route.begun t x declaration) := by
  refine ⟨⟨?_, ?_⟩, ⟨?_, ?_⟩⟩
  · intro hkeeps x old hfile hdetour
    have hlost := Artifact.write_detour content hfile hdetour
    rw [hkeeps x old hfile] at hlost
    cases hlost
    rfl
  · intro hsame x old hfile
    by_cases hdetour : Detours t p x
    · rw [Artifact.write_detour content hfile hdetour, hsame x old hfile hdetour]
    · exact Artifact.write_keeps content hfile hdetour
  · intro hkeeps x old hfile hdetour
    obtain ⟨new, hnew, hprefix⟩ := hkeeps x old hfile
    rw [Route.register_detour declaration hfile hdetour] at hnew
    cases hnew
    exact hprefix
  · intro hprefix x old hfile
    by_cases hdetour : Detours t p x
    · exact ⟨_, Route.register_detour declaration hfile hdetour, hprefix x old hfile hdetour⟩
    · exact Route.register_keeps declaration hfile hdetour

/-- The detour over a directory that is not there loses a file of the working directory, to an
unforced write as well as to a registration. -/
theorem file_lost_on_detour :
    let name : Text := "existing.php"
    let path := Path.ofText "missing/../existing.php"
    let tree : Tree := { workingDirectory := [], entries := [([name], .file (landed "old"))] }
    tree.node? [name] = some (.file (landed "old")) ∧
      (after (Artifact.write path "new" false) tree).node? [name] =
        some (.file (landed "new")) ∧
      (after (Route.register path "Route::get('/users');") tree).node? [name] =
        some (.file (landed "<?php\n\n\nRoute::get('/users');\n")) := by
  decide +kernel

end Scaffold
