import Scaffold.Proofs.Artifact.Write
import Scaffold.Proofs.Files.Lines
import Scaffold.Proofs.Text.Encoding
import Scaffold.Proofs.Text.Search
import Scaffold.Routes

/-!
# Registering routes

Starting a routes file is an unforced write (`ensureFile_eq`), and a registration that returns has
found its line in the file or added it (`register_ok`). A line that is in the file stays there
(`Registered.register`, `Registered.write`), and registering it again does nothing
(`Registered.register_eq`).

A registration has three steps, and each may fail: the file is started, it is read, and the line is
added. Where it fails, what stands at the addresses afterwards is what the step that failed has left
(`after_ensureFile`, `after_register_lacking`).

That a line is in the file means that it can be read there as part of a text (`Registered`), not
that it stands on a line of its own. The program searches for no more than that, and
`Scaffold.Proofs.Routes.Listing` says what follows for a file that it has started itself.
-/

namespace Scaffold.Route

open Files
open Program (after after_bind_pure after_of_eq bind_of_error bind_of_ok bind_ok_iff pure_ok_iff)
open Utf8 (Bytes)

/-! ## The steps of a registration -/

/-- Starting a routes file is an unforced write of its first lines. -/
theorem ensureFile_eq (path : Path) :
    ensureFile path = (do let _ ← Artifact.write path fileHeader false; return ()) := by
  funext t
  unfold ensureFile Artifact.write
  cases hexists : pathExists path t with
  | error failure t₁ =>
    rw [bind_of_error hexists, bind_of_error (bind_of_error hexists _)]
  | ok found t₁ =>
    rw [bind_of_ok hexists, bind_assoc, bind_of_ok hexists]
    cases found with
    | true => rfl
    | false =>
      show (ensureDirectories path.parent >>= fun _ => writeText path fileHeader) t₁ =
        ((ensureDirectories path.parent >>= fun _ => writeText path fileHeader >>= fun _ =>
          pure true) >>= fun _ => pure ()) t₁
      simp only [bind_assoc, pure_bind, bind_pure_unit]

/-- Starting a routes file leaves what the unforced write leaves. -/
theorem after_ensureFile (path : Path) (t : Tree) :
    after (ensureFile path) t = after (Artifact.write path fileHeader false) t := by
  rw [ensureFile_eq]
  exact after_bind_pure _ () t

/-- What is added to the file for a declaration. -/
def addition (declaration : Text) : Text := Text.concat ["\n", normalize declaration, "\n"]

/-- A declaration that a readable file lacks is added to it. -/
theorem register_lacking {path : Path} {declaration text : Text} {t t' : Tree}
    (hfile : ensureFile path t = .ok () t') (htext : readText path t' = .ok text t')
    (hlacks : Text.contains text (normalize declaration) = false) :
    register path declaration t =
      (do edit path id (addition declaration); return true) t' := by
  unfold register
  show (ensureFile path >>= fun _ => _) t = _
  rw [bind_of_ok hfile]
  rw [bind_of_ok htext, hlacks]
  rfl

/-- Registering a line that is not there leaves what adding it leaves. -/
theorem after_register_lacking {path : Path} {declaration text : Text} {t t' : Tree}
    (hfile : ensureFile path t = .ok () t') (htext : readText path t' = .ok text t')
    (hlacks : Text.contains text (normalize declaration) = false) :
    after (register path declaration) t = after (edit path id (addition declaration)) t' :=
  (after_of_eq (register_lacking hfile htext hlacks)).trans (after_bind_pure _ true t')

/-- A declaration that a readable file holds changes nothing. -/
theorem register_present {path : Path} {declaration text : Text} {t t' : Tree}
    (hfile : ensureFile path t = .ok () t') (htext : readText path t' = .ok text t')
    (hholds : Text.contains text (normalize declaration) = true) :
    register path declaration t = .ok false t' := by
  unfold register
  show (ensureFile path >>= fun _ => _) t = _
  rw [bind_of_ok hfile]
  rw [bind_of_ok htext, hholds]
  rfl

/-- The first lines of a routes file hold no declaration: they have no semicolon. -/
theorem fileHeader_lacks (declaration : Text) :
    Text.contains fileHeader (normalize declaration) = false := by
  rw [← Bool.not_eq_true, Text.contains_iff]
  intro hparts
  obtain ⟨before, after, h⟩ := hparts
  have hmem : CodePoint.char ';' ∈ fileHeader := by
    rw [← h]
    simp [normalize]
  exact absurd hmem (by decide)

/-- Starting a routes file returns where the unforced write does. -/
theorem ensureFile_ok {path : Path} {t t' : Tree} {u : Unit} (h : ensureFile path t = .ok u t') :
    ∃ written, Artifact.write path fileHeader false t = .ok written t' := by
  rw [ensureFile_eq] at h
  obtain ⟨written, t₁, hwrite, h⟩ := bind_ok_iff.mp h
  obtain ⟨_, rfl⟩ := pure_ok_iff.mp h
  exact ⟨written, hwrite⟩

/-- Everything that can come of a registration that returns. -/
theorem register_ok {path : Path} {declaration : Text} {added : Bool} {t t' : Tree}
    (h : register path declaration t = .ok added t') :
    ∃ t₁ x old text, ensureFile path t = .ok () t₁ ∧ address path t₁ = .ok x t₁ ∧
      t₁.node? x = some (.file old) ∧ Utf8.decode old = .ok text ∧
      ((added = false ∧ t' = t₁ ∧
        Text.contains (universalLines false text) (normalize declaration) = true) ∨
      (added = true ∧ ∃ bytes, Utf8.encode (addition declaration) = .ok bytes ∧
        t' = t₁.set x (.file (old ++ bytes)))) := by
  unfold register at h
  obtain ⟨u, t₁, hfile, hrest⟩ := bind_ok_iff.mp h
  obtain ⟨content, t₂, hcontent, hrest⟩ := bind_ok_iff.mp hrest
  obtain rfl := (reads_readText path).tree_eq hcontent
  obtain ⟨old, text, hold, hdecode, rfl⟩ := readText_ok_iff.mp hcontent
  obtain ⟨_, x, hx, hnode⟩ := readBytes_ok_iff.mp hold
  refine ⟨t₂, x, old, text, hfile, hx, hnode, hdecode, ?_⟩
  -- The line is looked for in what is read, but added to what is held.
  by_cases hholds : Text.contains (universalLines false text) (normalize declaration) = true
  · rw [if_pos hholds] at hrest
    obtain ⟨rfl, rfl⟩ := pure_ok_iff.mp hrest
    exact Or.inl ⟨rfl, rfl, hholds⟩
  · rw [if_neg hholds] at hrest
    obtain ⟨u', t₃, happended, hrest⟩ := bind_ok_iff.mp hrest
    obtain ⟨rfl, rfl⟩ := pure_ok_iff.mp hrest
    rw [appendText_eq_edit] at happended
    obtain ⟨y, bytes, hy, _, hbytes, _, rfl⟩ := edit_ok happended
    rw [hx] at hy
    cases hy
    refine Or.inr ⟨rfl, bytes, hbytes, ?_⟩
    rw [held_of_file hnode]
    rfl

/-- A registration that returns leaves a path that leads somewhere. -/
theorem register_leads {path : Path} {declaration : Text} {added : Bool} {t t' : Tree}
    (h : register path declaration t = .ok added t') : ∃ x, address path t' = .ok x t' := by
  obtain ⟨t₁, x, old, text, _, hx, hnode, _, hcases⟩ := register_ok h
  rcases hcases with ⟨_, rfl, _⟩ | ⟨_, bytes, _, rfl⟩
  · exact ⟨x, hx⟩
  · exact ⟨x, (grows_set (ne_directory hnode) _).address hx⟩

/-- A registration loses no file and no line. -/
theorem register_grows {path : Path} {declaration : Text} {added : Bool} {t t' : Tree}
    (h : register path declaration t = .ok added t') : Grows t t' := by
  obtain ⟨t₁, x, old, text, hfile, _, hnode, _, hcases⟩ := register_ok h
  obtain ⟨_, hwrite⟩ := ensureFile_ok hfile
  have hgrows := Artifact.write_grows hwrite
  rcases hcases with ⟨_, rfl, _⟩ | ⟨_, bytes, _, rfl⟩
  · exact hgrows
  · exact hgrows.trans (grows_set (ne_directory hnode) _)

/-! ## Lines that stay -/

/-- The line can be read in the file at the path. -/
def Registered (t : Tree) (path : Path) (line : Text) : Prop :=
  ∃ x bytes text, address path t = .ok x t ∧ t.node? x = some (.file bytes) ∧
    Utf8.decode bytes = .ok text ∧ line <:+: universalLines false text

/-- What is read of a file grows at its end when bytes of a text are added to it. -/
theorem read_append {old bytes : Bytes} {text added line : Text} (hold : Utf8.decode old = .ok text)
    (hbytes : Utf8.encode added = .ok bytes) (hline : line <:+: universalLines false text) :
    ∃ text', Utf8.decode (old ++ bytes) = .ok text' ∧ line <:+: universalLines false text' := by
  refine ⟨text ++ added, Utf8.decode_append hold (Utf8.decode_encode hbytes), ?_⟩
  obtain ⟨next, hnext⟩ := universalLines_append false text added
  rw [hnext]
  exact hline.trans (List.prefix_append _ _).isInfix

/-- A line without carriage returns can be read after it was registered. -/
theorem register_registered {path : Path} {declaration : Text} {added : Bool} {t t' : Tree}
    (h : register path declaration t = .ok added t')
    (hreturn : CodePoint.char '\r' ∉ normalize declaration) :
    Registered t' path (normalize declaration) := by
  obtain ⟨t₁, x, old, text, _, hx, hnode, hdecode, hcases⟩ := register_ok h
  rcases hcases with ⟨_, rfl, hholds⟩ | ⟨_, bytes, hbytes, rfl⟩
  · exact ⟨x, old, text, hx, hnode, hdecode, Text.contains_iff.mp hholds⟩
  · have hfile : t₁.node? x ≠ some .directory := ne_directory hnode
    refine ⟨x, old ++ bytes, text ++ addition declaration, (grows_set hfile _).address hx, ?_,
      Utf8.decode_append hdecode (Utf8.decode_encode hbytes), ?_⟩
    · rw [node?_set_self hfile]
    · -- The line feed before the line ends whatever line was open.
      obtain ⟨next, hnext⟩ := universalLines_append false text (addition declaration)
      rw [hnext]
      have hadded : addition declaration =
          .char '\n' :: (normalize declaration ++ [.char '\n']) := by
        simp [addition, Text.concat, Text.ofString]
      rw [hadded]
      exact (infix_universalLines hreturn next _).trans (List.suffix_append _ _).isInfix

/-- A file in which a line can be read is there. -/
theorem Registered.pathExists {t : Tree} {path : Path} {line : Text}
    (h : Registered t path line) : Files.pathExists path t = .ok true t := by
  obtain ⟨x, bytes, text, hx, hnode, _⟩ := h
  exact pathExists_true_iff.mpr ⟨rfl, x, hx, by rw [hnode]; rfl⟩

/-- Where a line is registered the file need not be started. -/
theorem Registered.ensureFile {t : Tree} {path : Path} {line : Text}
    (h : Registered t path line) : Route.ensureFile path t = .ok () t := by
  rw [ensureFile_eq]
  exact bind_of_ok (Artifact.write_existing fileHeader h.pathExists) _

/-- Registering a declaration again does nothing. -/
theorem Registered.register_eq {t : Tree} {path : Path} {declaration : Text}
    (h : Registered t path (normalize declaration)) :
    register path declaration t = .ok false t := by
  have hfile := h.ensureFile
  obtain ⟨x, bytes, text, hx, hnode, hdecode, hline⟩ := h
  have htext : readText path t = .ok (universalLines false text) t :=
    readText_ok_iff.mpr ⟨bytes, text, readBytes_ok_iff.mpr ⟨rfl, x, hx, hnode⟩, hdecode, rfl⟩
  exact register_present hfile htext (Text.contains_iff.mpr hline)

/-- A line stays when other declarations are registered in its file. -/
theorem Registered.register {t t' : Tree} {path : Path} {line declaration : Text} {added : Bool}
    (h : Registered t path line) (hregister : Route.register path declaration t = .ok added t') :
    Registered t' path line := by
  obtain ⟨t₁, x, old, text, hfile, hx, hnode, hdecode, hcases⟩ := register_ok hregister
  rw [h.ensureFile] at hfile
  cases hfile
  obtain ⟨y, bytes, text', hy, hnode', hdecode', hline⟩ := h
  rw [hx] at hy
  cases hy
  rw [hnode] at hnode'
  cases hnode'
  rw [hdecode] at hdecode'
  cases hdecode'
  rcases hcases with ⟨_, rfl, _⟩ | ⟨_, added, hadded, rfl⟩
  · exact ⟨x, old, text, hx, hnode, hdecode, hline⟩
  · have hdirectory : t.node? x ≠ some .directory := ne_directory hnode
    obtain ⟨text', hdecode', hline'⟩ := read_append hdecode hadded hline
    refine ⟨x, old ++ added, text', (grows_set hdirectory _).address hx, ?_, hdecode', hline'⟩
    rw [node?_set_self hdirectory]

/-- A line stays when artifacts are written to other places than its file. -/
theorem Registered.write {t t' : Tree} {path target : Path} {line content : Text}
    {force written : Bool} (h : Registered t path line)
    (hwrite : Artifact.write target content force t = .ok written t')
    (hapart : ∀ x, address target t' = .ok x t' → address path t' ≠ .ok x t') :
    Registered t' path line := by
  obtain ⟨x, bytes, text, hx, hnode, hdecode, hline⟩ := h
  have hx' := (Artifact.write_grows hwrite).address hx
  rcases Artifact.write_file hwrite hnode with hnode' | ⟨htarget, _⟩
  · exact ⟨x, bytes, text, hx', hnode', hdecode, hline⟩
  · exact absurd hx' (hapart x htarget)

/-- The line of a declaration has carriage returns only from the declaration. -/
theorem normalize_no_return {declaration : Text} (h : CodePoint.char '\r' ∉ declaration) :
    CodePoint.char '\r' ∉ normalize declaration := by
  intro hmem
  unfold normalize Text.trim at hmem
  rcases List.mem_append.mp hmem with hmem | hmem
  · have htrim := (Text.trimEnd_prefix _ _).subset ((Text.trimEnd_prefix _ _).subset hmem)
    exact h ((Text.trimStart_suffix _ _).subset ((Text.trimEnd_prefix _ _).subset htrim))
  · exact absurd hmem (by decide)

end Scaffold.Route
