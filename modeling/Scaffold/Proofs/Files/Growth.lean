import Scaffold.Files.Access

/-!
# How a file tree grows

No operation removes anything: what is a directory stays one, and a file stays a file, though
perhaps with another content (`Grows`). A path that leads somewhere therefore leads to the same
place ever after (`Grows.address`). Making directories does less than that: it puts directories
where nothing stood and leaves every file as it is (`Gains`).

Both relations are reflexive and transitive, so they pass from steps to whole runs. `Grows` is what
a run knows of its files after anything has happened in between; `Gains` is what a write knows of
the tree between its test for existence and the opening of the file.

The other half of the module is about paths: where one leads in a tree (`address_ok_iff`), and where
its names say that it leads (`Tree.destination`), whether or not there is anything on the way.
-/

namespace Scaffold.Files

open Utf8 (Bytes)

/-! ## Trees that have grown -/

/-- Nothing has gone: directories are still directories, and files are still files. -/
structure Grows (t t' : Tree) : Prop where
  workingDirectory : t'.workingDirectory = t.workingDirectory
  medium : t'.medium = t.medium
  directory : ∀ {x}, t.node? x = some .directory → t'.node? x = some .directory
  file : ∀ {x old}, t.node? x = some (.file old) → ∃ new, t'.node? x = some (.file new)

theorem Grows.refl (t : Tree) : Grows t t := ⟨rfl, rfl, id, fun h => ⟨_, h⟩⟩

theorem Grows.trans {t t' t'' : Tree} (h : Grows t t') (h' : Grows t' t'') : Grows t t'' := by
  refine ⟨h'.workingDirectory.trans h.workingDirectory, h'.medium.trans h.medium,
    fun hx => h'.directory (h.directory hx), ?_⟩
  intro x old hx
  obtain ⟨new, hnew⟩ := h.file hx
  exact h'.file hnew

/-- What is there stays there. -/
theorem Grows.isSome {t t' : Tree} (h : Grows t t') {x : Address} (hx : (t.node? x).isSome) :
    (t'.node? x).isSome := by
  obtain ⟨node, hnode⟩ := Option.isSome_iff_exists.mp hx
  cases node with
  | directory => rw [h.directory hnode]; rfl
  | file old =>
    obtain ⟨new, hnew⟩ := h.file hnode
    rw [hnew]
    rfl

/-- Directories stand where nothing stood, and nothing else is different. -/
structure Gains (t t' : Tree) : Prop where
  workingDirectory : t'.workingDirectory = t.workingDirectory
  medium : t'.medium = t.medium
  node : ∀ x, t'.node? x = t.node? x ∨ (t.node? x = none ∧ t'.node? x = some .directory)

theorem Gains.refl (t : Tree) : Gains t t := ⟨rfl, rfl, fun _ => Or.inl rfl⟩

theorem Gains.trans {t t' t'' : Tree} (h : Gains t t') (h' : Gains t' t'') : Gains t t'' := by
  refine ⟨h'.workingDirectory.trans h.workingDirectory, h'.medium.trans h.medium, fun x => ?_⟩
  rcases h'.node x with hx' | ⟨hnone, hx'⟩
  · rcases h.node x with hx | ⟨hnone, hx⟩
    · exact Or.inl (hx'.trans hx)
    · exact Or.inr ⟨hnone, hx'.trans hx⟩
  · rcases h.node x with hx | ⟨_, hx⟩
    · exact Or.inr ⟨hx ▸ hnone, hx'⟩
    · rw [hx] at hnone
      cases hnone

/-- New directories make no file and take none. -/
theorem Gains.file_iff {t t' : Tree} (h : Gains t t') (x : Address) (content : Bytes) :
    t'.node? x = some (.file content) ↔ t.node? x = some (.file content) := by
  rcases h.node x with hx | ⟨hnone, hx⟩
  · rw [hx]
  · rw [hx, hnone]
    constructor <;> intro h <;> cases h

/-- A tree that gains directories grows. -/
theorem Gains.grows {t t' : Tree} (h : Gains t t') : Grows t t' := by
  refine ⟨h.workingDirectory, h.medium, ?_, fun hx => ⟨_, (h.file_iff _ _).mpr hx⟩⟩
  intro x hx
  rcases h.node x with hx' | ⟨hnone, _⟩
  · rw [hx', hx]
  · rw [hx] at hnone
    cases hnone

/-- What is no directory is not the root. -/
theorem ne_root {t : Tree} {x : Address} (h : t.node? x ≠ some .directory) : x ≠ [] := by
  intro heq
  subst heq
  exact h rfl

theorem ne_directory {t : Tree} {x : Address} {content : Bytes}
    (h : t.node? x = some (.file content)) : t.node? x ≠ some .directory := by
  rw [h]
  exact nofun

/-- What is put where no directory stands, stands there. -/
theorem node?_set_self {t : Tree} {x : Address} (h : t.node? x ≠ some .directory) (node : Node) :
    (t.set x node).node? x = some node := by
  rw [Tree.node?_set t (ne_root h), if_pos rfl]

/-- A directory where nothing stood is a gain. -/
theorem gains_set {t : Tree} {x : Address} (h : t.node? x = none) :
    Gains t (t.set x .directory) := by
  have hx : x ≠ [] := ne_root (by rw [h]; exact nofun)
  refine ⟨rfl, rfl, fun y => ?_⟩
  rw [Tree.node?_set t hx]
  split
  next hy => exact Or.inr ⟨hy ▸ h, rfl⟩
  next => exact Or.inl rfl

/-- A file where no directory stands is growth, whatever it holds. -/
theorem grows_set {t : Tree} {x : Address} (h : t.node? x ≠ some .directory) (content : Bytes) :
    Grows t (t.set x (.file content)) := by
  refine ⟨rfl, rfl, ?_, ?_⟩ <;> intro y
  · intro hy
    have hxy : ¬ x = y := by
      intro heq
      subst heq
      exact h hy
    rw [Tree.node?_set t (ne_root h), if_neg hxy]
    exact hy
  · intro old hy
    rw [Tree.node?_set t (ne_root h)]
    split
    · exact ⟨content, rfl⟩
    · exact ⟨old, hy⟩

theorem insert_insert (x : Address) (first last : Node) (es : List (Address × Node)) :
    Tree.insert x last (Tree.insert x first es) = Tree.insert x last es := by
  induction es with
  | nil => simp [Tree.insert]
  | cons e es ih =>
    obtain ⟨y, old⟩ := e
    by_cases hy : y = x
    · simp [Tree.insert, hy]
    · simp [Tree.insert, hy, ih]

/-- What is set last counts. -/
theorem set_set (t : Tree) (x : Address) (first last : Node) :
    (t.set x first).set x last = t.set x last := by
  unfold Tree.set
  rw [insert_insert]

theorem insert_same {x : Address} {node : Node} {es : List (Address × Node)}
    (h : Tree.lookup x es = some node) : Tree.insert x node es = es := by
  induction es with
  | nil => cases h
  | cons e es ih =>
    obtain ⟨y, old⟩ := e
    unfold Tree.lookup at h
    unfold Tree.insert
    by_cases hy : y = x
    · rw [if_pos hy] at h ⊢
      cases h
      rfl
    · rw [if_neg hy] at h ⊢
      rw [ih h]

/-- Putting a file where it stands changes nothing. -/
theorem set_same {t : Tree} {x : Address} {content : Bytes}
    (h : t.node? x = some (.file content)) : t.set x (.file content) = t := by
  unfold Tree.node? at h
  rw [if_neg (ne_root (ne_directory h))] at h
  unfold Tree.set
  rw [insert_same h]

/-! ## Paths -/

/-- A way that can be gone ends where its names say. -/
theorem walk_eq_foldl {t : Tree} : ∀ {names : List Text} {a x : Address},
    t.walk a names = .ok x → x = names.foldl Tree.stepTo a := by
  intro names
  induction names with
  | nil =>
    intro a x h
    cases h
    rfl
  | cons name rest ih =>
    intro a x h
    unfold Tree.walk at h
    split at h
    next => cases h
    next =>
      cases rest with
      | nil =>
        cases h
        rfl
      | cons next rest =>
        dsimp only at h
        split at h
        next => exact ih h
        next => cases h
        next => cases h

/-- Where the names of a path lead, whatever stands on the way. -/
def Tree.destination (t : Tree) (p : Path) : Address :=
  p.segments.foldl Tree.stepTo (t.start p.anchor)

/-- A way that can be gone can still be gone when the tree has grown: the directories on it are
still there. -/
theorem Grows.walk {t t' : Tree} (hgrows : Grows t t') :
    ∀ {names : List Text} {a x : Address}, t.walk a names = .ok x → t'.walk a names = .ok x := by
  intro names
  induction names with
  | nil =>
    intro a x h
    exact h
  | cons name rest ih =>
    intro a x h
    unfold Tree.walk at h ⊢
    split at h
    next => cases h
    next hlength =>
      rw [if_neg hlength]
      cases rest with
      | nil => exact h
      | cons next rest =>
        dsimp only at h ⊢
        -- A way goes on only through a directory, and that is still there.
        split at h
        next hdirectory =>
          rw [hgrows.directory hdirectory]
          exact ih h
        next => cases h
        next => cases h

/-- A path names an address if the system can express it and its way can be gone. -/
theorem address_ok_iff {p : Path} {t t' : Tree} {x : Address} :
    address p t = .ok x t' ↔
      t' = t ∧ p.defect? = none ∧ byteLength p.toText ≤ maxPathLength ∧
        t.walk (t.start p.anchor) p.segments = .ok x := by
  unfold address
  cases hdefect : p.defect? with
  | some failure => simp
  | none =>
    by_cases hlength : maxPathLength < byteLength p.toText
    · simp only [hlength, if_true]
      constructor
      · intro h
        cases h
      · intro hparts
        obtain ⟨_, _, hle, _⟩ := hparts
        omega
    · simp only [hlength, if_false]
      cases hwalk : t.walk (t.start p.anchor) p.segments with
      | error cause => simp
      | ok y =>
        have hle : byteLength p.toText ≤ maxPathLength := by omega
        simp only [EStateM.Result.ok.injEq, Except.ok.injEq]
        constructor
        · intro hparts
          obtain ⟨rfl, rfl⟩ := hparts
          exact ⟨rfl, trivial, hle, rfl⟩
        · intro hparts
          obtain ⟨rfl, _, _, rfl⟩ := hparts
          exact ⟨rfl, rfl⟩

/-- A path leads somewhere, or following it fails; the tree is the same either way. -/
theorem address_cases (p : Path) (t : Tree) :
    (∃ x, address p t = .ok x t) ∨ ∃ failure, address p t = .error failure t := by
  unfold address
  split
  next failure _ => exact Or.inr ⟨failure, rfl⟩
  next =>
    split
    next => exact Or.inr ⟨_, rfl⟩
    next =>
      split
      next x _ => exact Or.inl ⟨x, rfl⟩
      next => exact Or.inr ⟨_, rfl⟩

theorem start_eq {t t' : Tree} (h : t'.workingDirectory = t.workingDirectory) (anchor : Anchor) :
    t'.start anchor = t.start anchor := by
  cases anchor with
  | here => exact h
  | root => rfl
  | doubleRoot => rfl

/-- Where the names of a path lead depends on the working directory alone. -/
theorem destination_eq {t t' : Tree} (h : t'.workingDirectory = t.workingDirectory) (p : Path) :
    t'.destination p = t.destination p := by
  unfold Tree.destination
  rw [start_eq h]

/-- A path that leads somewhere leads where its names lead. -/
theorem destination_of_address {p : Path} {t t' : Tree} {x : Address}
    (h : Files.address p t = .ok x t') : x = t.destination p :=
  walk_eq_foldl (address_ok_iff.mp h).2.2.2

/-- A path that leads somewhere leads to the same place when the tree has grown. -/
theorem Grows.address {t t' : Tree} (h : Grows t t') {p : Path} {x : Address}
    (hx : address p t = .ok x t) : Files.address p t' = .ok x t' := by
  obtain ⟨_, hdefect, hlength, hwalk⟩ := address_ok_iff.mp hx
  have hstart := start_eq h.workingDirectory p.anchor
  exact address_ok_iff.mpr ⟨rfl, hdefect, hlength, hstart ▸ h.walk hwalk⟩

end Scaffold.Files
