import Scaffold.Proofs.Files.Growth
import Scaffold.Proofs.Program

/-!
# What comes of file operations

Questions change nothing. Making directories only adds directories, whether it succeeds or not
(`ensureDirectories_gains`). Writing and appending are one operation, that differs in how much of
the old content is kept, and `edit_cases` says everything that can come of it.

Runs never open the operations of `Files.Access`. What they cite is one lemma for each:

* `Reads` for what only looks: the tree afterwards is the tree before, result or failure;
* `Gains` for making directories, and `Grows` for writing;
* `edit_cases` for the outcomes of a write: refused, short, not to be encoded, or done.

A file is spoken of by its content (`Tree.content?`), which tells regular files from all else, and
what a write leaves of a content is spoken of by what the medium takes (`Tree.taken`).
-/

namespace Scaffold.Files

open Program (after Leaves after_of_ok after_of_error bind_of_ok bind_of_error bind_ok_iff
  bind_get pure_ok_iff result result_bind_of_ok)
open Utf8 (Bytes)

variable {α β : Type}

/-! ## Questions -/

/-- The tree is the same afterwards. -/
def Reads (act : Access α) : Prop := Leaves (fun t t' => t' = t) act

theorem Reads.bind {act : Access α} {next : α → Access β} (h : Reads act)
    (hnext : ∀ a, Reads (next a)) : Reads (act >>= next) :=
  Leaves.bind h (fun h h' => h'.trans h) hnext

theorem Reads.pure (a : α) : Reads (pure a : Access α) := fun _ => rfl

theorem Reads.throw (failure : Failure) : Reads (throw failure : Access α) := fun _ => rfl

theorem Reads.get : Reads (get : Access Tree) := fun _ => rfl

/-- What only reads leaves the tree in which it was asked. -/
theorem Reads.tree_eq {act : Access α} (h : Reads act) {t t' : Tree} {a : α}
    (ha : act t = .ok a t') : t' = t := by
  have ht := h t
  rw [after_of_ok ha] at ht
  exact ht

theorem reads_address (p : Path) : Reads (address p) := by
  intro t
  rcases address_cases p t with ⟨x, hx⟩ | ⟨failure, hfailure⟩
  · exact after_of_ok hx
  · exact after_of_error hfailure

/-- What stands at a path is what stands where it leads. -/
theorem node?_of_address {p : Path} {t : Tree} {x : Address} (h : address p t = .ok x t) :
    node? p t = .ok (t.node? x) t := by
  unfold node?
  rw [h]

/-- A path that leads nowhere has nothing there, or its name is too long. -/
theorem node?_of_no_address {p : Path} {t : Tree} (h : ∀ x, address p t ≠ .ok x t) :
    node? p t = .ok none t ∨ ∃ failure, node? p t = .error failure t := by
  rcases address_cases p t with ⟨x, hx⟩ | ⟨failure, hfailure⟩
  · exact absurd hx (h x)
  · unfold node?
    rw [hfailure]
    split
    next heq => cases heq
    next heq =>
      cases heq
      exact Or.inr ⟨_, rfl⟩
    next heq =>
      cases heq
      exact Or.inl rfl

/-- Looking at what stands at a path only reads, and so do all questions that are built on it. -/
theorem reads_node? (p : Path) : Reads (node? p) := by
  intro t
  rcases address_cases p t with ⟨x, hx⟩ | ⟨failure, hfailure⟩
  · exact after_of_ok (node?_of_address hx)
  · have hnone : ∀ x, address p t ≠ .ok x t := by
      intro x hx
      rw [hfailure] at hx
      cases hx
    rcases node?_of_no_address hnone with h | ⟨_, h⟩
    · exact after_of_ok h
    · exact after_of_error h

theorem reads_pathExists (p : Path) : Reads (pathExists p) :=
  Reads.bind (reads_node? p) fun _ => Reads.pure _

theorem reads_isFile (p : Path) : Reads (isFile p) :=
  Reads.bind (reads_node? p) fun _ => Reads.pure _

theorem reads_isDirectory (p : Path) : Reads (isDirectory p) :=
  Reads.bind (reads_node? p) fun _ => Reads.pure _

theorem reads_readBytes (p : Path) : Reads (readBytes p) := by
  unfold readBytes
  refine Reads.bind (reads_address p) fun x => Reads.bind Reads.get fun t => ?_
  split
  · exact Reads.pure _
  · exact Reads.throw _
  · exact Reads.throw _

/-- Reading a file only reads, whether or not it is a text. -/
theorem reads_readText (p : Path) : Reads (readText p) := by
  unfold readText
  apply Reads.bind (reads_readBytes p)
  intro bytes
  split
  · exact Reads.pure _
  · exact Reads.throw _

theorem reads_resolve (p : Path) : Reads (resolve p) := by
  intro t
  unfold after resolve
  cases p.defect? <;> rfl

theorem reads_list (p : Path) : Reads (list p) := by
  unfold list
  apply Reads.bind (reads_isDirectory p)
  intro found
  split
  · exact Reads.bind (reads_address p) fun x => Reads.bind Reads.get fun t => Reads.pure _
  · exact Reads.pure _

/-- A path that leads somewhere exists if something stands there. -/
theorem pathExists_of_address {p : Path} {t : Tree} {x : Address} (h : address p t = .ok x t) :
    pathExists p t = .ok (t.node? x).isSome t :=
  bind_of_ok (node?_of_address h) _

/-- Something stands at a path exactly if the path leads to an address with something at it. -/
theorem pathExists_true_iff {p : Path} {t t' : Tree} :
    pathExists p t = .ok true t' ↔
      t' = t ∧ ∃ x, address p t = .ok x t ∧ (t.node? x).isSome = true := by
  constructor
  · intro h
    obtain rfl := (reads_pathExists p).tree_eq h
    refine ⟨rfl, ?_⟩
    rcases address_cases p t' with ⟨x, hx⟩ | ⟨failure, hfailure⟩
    · rw [pathExists_of_address hx] at h
      injection h with h
      exact ⟨x, hx, h⟩
    · have hnone : ∀ x, address p t' ≠ .ok x t' := by
        intro x hx
        rw [hfailure] at hx
        cases hx
      obtain ⟨node, _, hnode, h⟩ := bind_ok_iff.mp h
      obtain ⟨h, _⟩ := pure_ok_iff.mp h
      rcases node?_of_no_address hnone with h' | ⟨_, h'⟩
      · rw [h'] at hnode
        cases hnode
        cases h
      · rw [h'] at hnode
        cases hnode
  · intro hparts
    obtain ⟨rfl, x, hx, hsome⟩ := hparts
    rw [pathExists_of_address hx, hsome]

/-- Something can only be found where the path leads. -/
theorem node?_some {p : Path} {t t' : Tree} {node : Node} (h : node? p t = .ok (some node) t') :
    ∃ x, address p t = .ok x t ∧ t.node? x = some node := by
  rcases address_cases p t with ⟨x, hx⟩ | ⟨failure, hfailure⟩
  · rw [node?_of_address hx] at h
    injection h with h _
    exact ⟨x, hx, h⟩
  · have hnone : ∀ x, address p t ≠ .ok x t := by
      intro x hx
      rw [hfailure] at hx
      cases hx
    rcases node?_of_no_address hnone with h' | ⟨_, h'⟩
    · rw [h'] at h
      cases h
    · rw [h'] at h
      cases h

/-- A directory stands at a path exactly if the path leads to an address with a directory. -/
theorem isDirectory_true_iff {p : Path} {t t' : Tree} :
    isDirectory p t = .ok true t' ↔
      t' = t ∧ ∃ x, address p t = .ok x t ∧ t.node? x = some .directory := by
  constructor
  · intro h
    obtain rfl := (reads_isDirectory p).tree_eq h
    obtain ⟨node, t₁, hnode, hfound⟩ := bind_ok_iff.mp h
    obtain ⟨hfound, rfl⟩ := pure_ok_iff.mp hfound
    refine ⟨rfl, ?_⟩
    rcases node with _ | ⟨_ | bytes⟩
    · cases hfound
    · exact node?_some hnode
    · cases hfound
  · intro hparts
    obtain ⟨rfl, x, hx, hdirectory⟩ := hparts
    refine bind_ok_iff.mpr ⟨_, t', node?_of_address hx, ?_⟩
    rw [hdirectory]
    rfl

/-- What exists goes on existing. -/
theorem Grows.pathExists {t t' : Tree} (h : Grows t t') {p : Path}
    (hp : Files.pathExists p t = .ok true t) : Files.pathExists p t' = .ok true t' := by
  obtain ⟨_, x, hx, hsome⟩ := pathExists_true_iff.mp hp
  exact pathExists_true_iff.mpr ⟨rfl, x, h.address hx, h.isSome hsome⟩

/-- The bytes of a file are those at the address its path leads to. -/
theorem readBytes_ok_iff {p : Path} {t t' : Tree} {bytes : Bytes} :
    readBytes p t = .ok bytes t' ↔
      t' = t ∧ ∃ x, address p t = .ok x t ∧ t.node? x = some (.file bytes) := by
  constructor
  · intro h
    obtain rfl := (reads_readBytes p).tree_eq h
    refine ⟨rfl, ?_⟩
    obtain ⟨x, t₁, hx, h⟩ := bind_ok_iff.mp h
    obtain rfl := (reads_address p).tree_eq hx
    rw [bind_get] at h
    refine ⟨x, hx, ?_⟩
    cases hnode : t₁.node? x with
    | none =>
      rw [hnode] at h
      cases h
    | some node =>
      rw [hnode] at h
      cases node with
      | directory => cases h
      | file content =>
        obtain ⟨rfl, _⟩ := pure_ok_iff.mp h
        rfl
  · intro hparts
    obtain ⟨rfl, x, hx, hfile⟩ := hparts
    unfold readBytes
    rw [bind_of_ok hx, bind_get, hfile]
    rfl

/-- What is read at a path follows from what stands where it leads. -/
theorem result_readBytes {p : Path} {t : Tree} {x : Address} (h : address p t = .ok x t) :
    result (readBytes p) t = match t.node? x with
      | some (.file content) => .ok content
      | some .directory => .error (.refused .isDirectory p)
      | none => .error (.refused .noEntry p) := by
  unfold readBytes
  rw [result_bind_of_ok h]
  unfold result
  rw [bind_get]
  rcases t.node? x with _ | ⟨_ | content⟩ <;> rfl

/-- The text of a file is its bytes, decoded, with all ends of lines alike. -/
theorem readText_ok_iff {p : Path} {t t' : Tree} {text : Text} :
    readText p t = .ok text t' ↔
      ∃ bytes decoded, readBytes p t = .ok bytes t' ∧ Utf8.decode bytes = .ok decoded ∧
        text = universalLines false decoded := by
  constructor
  · intro h
    obtain ⟨bytes, t₁, hbytes, h⟩ := bind_ok_iff.mp h
    cases hdecoded : Utf8.decode bytes with
    | error e =>
      rw [hdecoded] at h
      cases h
    | ok decoded =>
      rw [hdecoded] at h
      obtain ⟨rfl, rfl⟩ := pure_ok_iff.mp h
      exact ⟨bytes, decoded, hbytes, hdecoded, rfl⟩
  · intro hparts
    obtain ⟨bytes, decoded, hbytes, hdecoded, rfl⟩ := hparts
    unfold readText
    rw [bind_of_ok hbytes, hdecoded]
    rfl

/-- The text that the bytes of a file are read as. -/
def textOf (bytes : Bytes) : Except Failure Text :=
  match Utf8.decode bytes with
  | .ok decoded => .ok (universalLines false decoded)
  | .error e => .error (.undecodable e)

/-- So what is read of a file depends on its bytes alone. -/
theorem result_readText {p : Path} {t t' : Tree} {bytes : Bytes}
    (h : node? p t = .ok (some (.file bytes)) t') : result (readText p) t = textOf bytes := by
  obtain ⟨x, hx, hfile⟩ := node?_some h
  have hbytes : readBytes p t = .ok bytes t := readBytes_ok_iff.mpr ⟨rfl, x, hx, hfile⟩
  unfold readText textOf
  rw [result_bind_of_ok hbytes]
  cases Utf8.decode bytes <;> rfl

/-! ## Directories -/

section

variable {R : Tree → Tree → Prop}

theorem Reads.leaves {act : Access α} (h : Reads act) (refl : ∀ t, R t t) : Leaves R act := by
  intro t
  rw [h t]
  exact refl t

/-- Asking first whether a directory is there leaves what the answer calls for. -/
theorem leaves_unlessDirectory (refl : ∀ t, R t t)
    (trans : ∀ {t t' t''}, R t t' → R t' t'' → R t t'') (p : Path) (failure : Failure) :
    Leaves R (do if ← isDirectory p then return () else throw failure : Access Unit) := by
  apply Leaves.bind ((reads_isDirectory p).leaves refl) trans
  intro found
  split
  · exact (Reads.pure _).leaves refl
  · exact (Reads.throw _).leaves refl

/-- Making directories is making single ones on the way and asking, and leaves what these
leave. -/
theorem leaves_ensureDirectories (refl : ∀ t, R t t)
    (trans : ∀ {t t' t''}, R t t' → R t' t'' → R t t'') (p : Path)
    (make : ∀ q : Path, q.anchor = p.anchor → q.segments <+: p.segments →
      Leaves R (makeDirectory q)) : Leaves R (ensureDirectories p) := by
  have hone : ∀ q : Path, q.anchor = p.anchor → q.segments <+: p.segments →
      Leaves R (ensureDirectory q) := fun q hanchor hprefix =>
    Leaves.tryCatch (make q hanchor hprefix) trans fun failure =>
      leaves_unlessDirectory refl trans q failure
  -- The segments that are left, from the last to the first, are the first ones of the path.
  have hfrom : ∀ reversed : List Text, reversed.reverse <+: p.segments →
      Leaves R (ensureDirectoriesFrom p.anchor reversed) := by
    intro reversed
    induction reversed with
    | nil => exact fun hprefix => hone _ rfl hprefix
    | cons name above ih =>
      intro hprefix
      have habove : above.reverse <+: p.segments := by
        rw [List.reverse_cons] at hprefix
        exact (List.prefix_append _ _).trans hprefix
      unfold ensureDirectoriesFrom
      apply Leaves.tryCatch (make ⟨p.anchor, (name :: above).reverse⟩ rfl hprefix) trans
      intro failure
      split
      · exact Leaves.bind (ih habove) trans fun _ => hone _ rfl hprefix
      · exact leaves_unlessDirectory refl trans _ _
  exact hfrom p.segments.reverse (by simp)

end

/-- A directory is made where nothing stands, at the place its path leads to, or nothing happens. -/
theorem makeDirectory_cases (p : Path) (t : Tree) :
    after (makeDirectory p) t = t ∨ ∃ x, address p t = .ok x t ∧ t.node? x = none ∧
      after (makeDirectory p) t = t.set x .directory := by
  rcases address_cases p t with ⟨x, hx⟩ | ⟨failure, hfailure⟩
  · unfold after makeDirectory
    rw [bind_of_ok hx, bind_get]
    cases hnode : t.node? x with
    | some node => exact Or.inl rfl
    | none => exact Or.inr ⟨x, hx, hnode, rfl⟩
  · exact Or.inl (after_of_error (bind_of_error hfailure _))

/-- Making directories leaves every file as it is, and so does the attempt. -/
theorem ensureDirectories_gains (p : Path) : Leaves Gains (ensureDirectories p) := by
  refine leaves_ensureDirectories Gains.refl Gains.trans p ?_
  intro p _ _ t
  rcases makeDirectory_cases p t with hsame | ⟨x, _, hnode, hmade⟩
  · rw [hsame]
    exact Gains.refl t
  · rw [hmade]
    exact gains_set hnode

/-- Making directories that succeeds only adds directories. -/
theorem gains_of_made {p : Path} {t t' : Tree} {u : Unit}
    (h : ensureDirectories p t = .ok u t') : Gains t t' := by
  have hgains := ensureDirectories_gains p t
  rw [after_of_ok h] at hgains
  exact hgains

/-! ## Contents -/

/-- Opens a file, keeping some of what it held, and adds a text: what writing and appending have
in common. -/
def edit (p : Path) (keep : Bytes → Bytes) (content : Text) : Access Unit := do
  addText (← openFile p keep) content

/-- Writing keeps nothing of what was there. -/
theorem writeText_eq_edit (p : Path) (content : Text) :
    writeText p content = edit p (fun _ => []) content := rfl

/-- Appending keeps all of it. -/
theorem appendText_eq_edit (p : Path) (content : Text) :
    appendText p content = edit p id content := rfl

/-- The bytes of the file at an address; none if there is no file. -/
def held (t : Tree) (x : Address) : Bytes :=
  match t.node? x with
  | some (.file content) => content
  | _ => []

theorem held_of_file {t : Tree} {x : Address} {content : Bytes}
    (h : t.node? x = some (.file content)) : held t x = content := by
  unfold held
  rw [h]

/-- The bytes of the file at an address, if there is a file. -/
def Tree.content? (t : Tree) (x : Address) : Option Bytes :=
  match t.node? x with
  | some (.file content) => some content
  | _ => none

/-- An address has a content exactly if a file stands there. -/
theorem content?_eq_some_iff {t : Tree} {x : Address} {content : Bytes} :
    t.content? x = some content ↔ t.node? x = some (.file content) := by
  unfold Tree.content?
  split
  next h => rw [h, Option.some.injEq, Option.some.injEq, Node.file.injEq]
  next hnot =>
    constructor
    · intro h
      cases h
    · intro h
      exact absurd h (hnot content)

theorem content?_congr {t t' : Tree} {x : Address}
    (h : ∀ content, t'.node? x = some (.file content) ↔ t.node? x = some (.file content)) :
    t'.content? x = t.content? x :=
  Option.ext fun content => by rw [content?_eq_some_iff, content?_eq_some_iff, h]

/-- New directories leave the contents of files. -/
theorem Gains.content? {t t' : Tree} (h : Gains t t') (x : Address) :
    t'.content? x = t.content? x :=
  content?_congr (h.file_iff x)

/-- Opening keeps what it is to keep, and makes the file if nothing stands there. -/
theorem openFile_of_address {p : Path} {t : Tree} {x : Address} (keep : Bytes → Bytes)
    (hx : address p t = .ok x t) (hnode : t.node? x ≠ some .directory) :
    openFile p keep t = .ok x (t.set x (.file (keep (held t x)))) := by
  unfold openFile held
  rw [bind_of_ok hx, bind_get]
  cases h : t.node? x with
  | none => rfl
  | some node =>
    cases node with
    | directory => exact absurd h hnode
    | file content => rfl

/-- What a text leaves in a file that was emptied for it, on a medium that takes all of it: its
bytes, or nothing if it has none. -/
def landed (content : Text) : Bytes :=
  match Utf8.encode content with
  | .ok bytes => bytes
  | .error _ => []

/-- What gets to a file of the bytes that are added to it. -/
def Tree.taken (t : Tree) (x : Address) (held added : Bytes) : Bytes :=
  match t.medium x held added with
  | none => added
  | some shortage => added.take shortage.taken

/-- The medium takes the first part of what is added. -/
theorem prefix_of_taken (t : Tree) (x : Address) (held added : Bytes) :
    t.taken x held added <+: added := by
  unfold Tree.taken
  split
  · exact List.prefix_refl added
  · exact List.take_prefix _ added

theorem taken_nil (t : Tree) (x : Address) (held : Bytes) : t.taken x held [] = [] :=
  List.prefix_nil.mp (prefix_of_taken t x held [])

/-- What is taken depends on the medium alone. -/
theorem taken_congr {t t' : Tree} (h : t'.medium = t.medium) : t'.taken = t.taken := by
  unfold Tree.taken
  rw [h]

/-- A medium that is not short takes everything. -/
theorem taken_of_none {t : Tree} {x : Address} {held added : Bytes}
    (h : t.medium x held added = none) : t.taken x held added = added := by
  unfold Tree.taken
  rw [h]

/-- What is added to a file stands behind what it held, as far as it was taken. -/
theorem addBytes_of_file {t : Tree} {x : Address} {old : Bytes} (bytes : Bytes)
    (h : t.node? x = some (.file old)) :
    addBytes x bytes t =
      match t.medium x old bytes with
      | none => .ok () (t.set x (.file (old ++ bytes)))
      | some shortage =>
        .error (.medium shortage.message) (t.set x (.file (old ++ bytes.take shortage.taken))) := by
  unfold addBytes
  rw [bind_get, h]
  dsimp only
  cases t.medium x old bytes <;> rfl

/-- An edit of a path that leads to a place for a file. Opening leaves what is kept, and this stays
if the text cannot be encoded; the medium may take the bytes in part only. -/
theorem edit_at {p : Path} {t : Tree} {x : Address} (keep : Bytes → Bytes) (content : Text)
    (hx : address p t = .ok x t) (hnode : t.node? x ≠ some .directory) :
    edit p keep content t =
      match Utf8.encode content with
      | .error e => .error (.unencodable e) (t.set x (.file (keep (held t x))))
      | .ok bytes =>
        match t.medium x (keep (held t x)) bytes with
        | none => .ok () (t.set x (.file (keep (held t x) ++ bytes)))
        | some shortage =>
          .error (.medium shortage.message)
            (t.set x (.file (keep (held t x) ++ bytes.take shortage.taken))) := by
  have hedit : edit p keep content t = addText x content (t.set x (.file (keep (held t x)))) :=
    bind_of_ok (openFile_of_address keep hx hnode) _
  rw [hedit]
  unfold addText
  cases Utf8.encode content with
  | error e => rfl
  | ok bytes =>
    dsimp only
    rw [addBytes_of_file bytes (node?_set_self hnode _)]
    simp only [set_set]
    rfl

/-- Everything that can come of an edit: the path leads to no place for a file and nothing
happens; or the text follows what is kept; or the medium takes a part of it; or the text has no
encoding, and only what is kept remains. -/
theorem edit_cases (p : Path) (keep : Bytes → Bytes) (content : Text) (t : Tree) :
    ((∃ failure, edit p keep content t = .error failure t) ∧
      ∀ x, address p t = .ok x t → t.node? x = some .directory) ∨
    ∃ x, address p t = .ok x t ∧ t.node? x ≠ some .directory ∧
      ((∃ bytes, Utf8.encode content = .ok bytes ∧ t.medium x (keep (held t x)) bytes = none ∧
        edit p keep content t = .ok () (t.set x (.file (keep (held t x) ++ bytes)))) ∨
      (∃ bytes shortage, Utf8.encode content = .ok bytes ∧
        t.medium x (keep (held t x)) bytes = some shortage ∧
        edit p keep content t = .error (.medium shortage.message)
          (t.set x (.file (keep (held t x) ++ bytes.take shortage.taken)))) ∨
      ∃ e, Utf8.encode content = .error e ∧
        edit p keep content t = .error (.unencodable e) (t.set x (.file (keep (held t x))))) := by
  rcases address_cases p t with ⟨x, hx⟩ | ⟨failure, hfailure⟩
  · by_cases hnode : t.node? x = some .directory
    · -- A directory cannot be opened.
      refine Or.inl ⟨⟨.refused .isDirectory p, ?_⟩, ?_⟩
      · unfold edit openFile
        refine bind_of_error ?_ _
        rw [bind_of_ok hx, bind_get, hnode]
        rfl
      · intro y hy
        rw [hx] at hy
        cases hy
        exact hnode
    · refine Or.inr ⟨x, hx, hnode, ?_⟩
      rw [edit_at keep content hx hnode]
      cases Utf8.encode content with
      | error e => exact Or.inr (Or.inr ⟨e, rfl, rfl⟩)
      | ok bytes =>
        cases hmedium : t.medium x (keep (held t x)) bytes with
        | none => exact Or.inl ⟨bytes, rfl, hmedium, by simp only [hmedium]⟩
        | some shortage =>
          exact Or.inr (Or.inl ⟨bytes, shortage, rfl, hmedium, by simp only [hmedium]⟩)
  · refine Or.inl ⟨⟨failure, bind_of_error (bind_of_error hfailure _) _⟩, ?_⟩
    intro x hx
    rw [hfailure] at hx
    cases hx

/-- A text with an encoding gets to where its path leads, if the medium takes it. -/
theorem edit_of_address {p : Path} {t : Tree} {x : Address} {content : Text} {bytes : Bytes}
    (keep : Bytes → Bytes) (hx : address p t = .ok x t) (hnode : t.node? x ≠ some .directory)
    (hbytes : Utf8.encode content = .ok bytes)
    (hmedium : t.medium x (keep (held t x)) bytes = none) :
    edit p keep content t = .ok () (t.set x (.file (keep (held t x) ++ bytes))) := by
  rw [edit_at keep content hx hnode, hbytes]
  simp only [hmedium]

/-- Where the medium runs short, what was kept is left with the part that it took. -/
theorem edit_short {p : Path} {t : Tree} {x : Address} {content : Text} {bytes : Bytes}
    {shortage : Shortage} (keep : Bytes → Bytes) (hx : address p t = .ok x t)
    (hnode : t.node? x ≠ some .directory) (hbytes : Utf8.encode content = .ok bytes)
    (hmedium : t.medium x (keep (held t x)) bytes = some shortage) :
    edit p keep content t = .error (.medium shortage.message)
      (t.set x (.file (keep (held t x) ++ bytes.take shortage.taken))) := by
  rw [edit_at keep content hx hnode, hbytes]
  simp only [hmedium]

/-- A text without an encoding leaves what was kept where its path leads. -/
theorem edit_unencodable {p : Path} {t : Tree} {x : Address} {content : Text} {e : Utf8.EncodeError}
    (keep : Bytes → Bytes) (hx : address p t = .ok x t) (hnode : t.node? x ≠ some .directory)
    (hencode : Utf8.encode content = .error e) :
    edit p keep content t = .error (.unencodable e) (t.set x (.file (keep (held t x)))) := by
  rw [edit_at keep content hx hnode, hencode]

/-- An edit that succeeds leaves what was kept and the bytes of the text at the address of the
path. -/
theorem edit_ok {p : Path} {keep : Bytes → Bytes} {content : Text} {t t' : Tree} {u : Unit}
    (h : edit p keep content t = .ok u t') :
    ∃ x bytes, address p t = .ok x t ∧ t.node? x ≠ some .directory ∧
      Utf8.encode content = .ok bytes ∧ t.medium x (keep (held t x)) bytes = none ∧
      t' = t.set x (.file (keep (held t x) ++ bytes)) := by
  rcases edit_cases p keep content t with ⟨⟨_, herror⟩, _⟩ |
    ⟨x, hx, hnode, ⟨bytes, hbytes, hmedium, hok⟩ | ⟨_, _, _, _, herror⟩ | ⟨_, _, herror⟩⟩
  · rw [herror] at h
    cases h
  · rw [hok] at h
    cases h
    exact ⟨x, bytes, hx, hnode, hbytes, hmedium, rfl⟩
  · rw [herror] at h
    cases h
  · rw [herror] at h
    cases h

/-- An edit that finds a place for a file leaves there what was kept and what the medium takes of
what the text has. -/
theorem after_edit {p : Path} {t : Tree} {x : Address} (keep : Bytes → Bytes) (content : Text)
    (hx : address p t = .ok x t) (hnode : t.node? x ≠ some .directory) :
    after (edit p keep content) t = t.set x
      (.file (keep (held t x) ++ t.taken x (keep (held t x)) (landed content))) := by
  unfold after Tree.taken landed
  rw [edit_at keep content hx hnode]
  cases Utf8.encode content with
  | error e =>
    have hnothing := taken_nil t x (keep (held t x))
    unfold Tree.taken at hnothing
    rw [hnothing, List.append_nil]
  | ok bytes =>
    dsimp only
    cases t.medium x (keep (held t x)) bytes <;> rfl

end Scaffold.Files
