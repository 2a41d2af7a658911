import Scaffold.Artifact.Structure
import Scaffold.Proofs.Json.Reading
import Scaffold.Proofs.Routes
import Scaffold.Source.Declaration

/-!
# Structure files that were written over

A run may write to its own structure file, as to any other. But what it writes is source text, which
begins with the opening tag, and what it adds are declarations, which end in a semicolon and a line
feed. Neither is JSON, so a structure file that can still be loaded is the one that was there
(`load_stable`).

`Turns` says what can become of a file: it holds what it held, or it is spoiled for good. A spoiled
file stays spoiled under further writes and further declarations, so the relation is transitive and
passes through a whole run.

This is what makes it possible to speak of the entries of a run, although the file is read late and
only once.
-/

namespace Scaffold.Structure

open Files
open Program (bind_ok_iff except_bind_ok_iff pure_ok_iff)
open Utf8 (Bytes)

/-! ## Spoiled files -/

/-- Bytes that begin as source text does, or end as declarations do. -/
def Spoiled (bytes : Bytes) : Prop :=
  (∃ rest, bytes = 0x3C :: rest) ∨
    ∃ text, Utf8.decode bytes = .ok (text ++ [.char ';', .char '\n'])

/-- Every file is as it was, or spoiled. -/
def Turns (t t' : Tree) : Prop :=
  ∀ x old, t.node? x = some (.file old) →
    ∃ new, t'.node? x = some (.file new) ∧ (new = old ∨ Spoiled new)

/-- Nothing has to change. -/
theorem Turns.refl (t : Tree) : Turns t t := fun _ old h => ⟨old, h, Or.inl rfl⟩

/-- What has turned may turn again: a spoiled file stays spoiled. -/
theorem Turns.trans {t t' t'' : Tree} (h : Turns t t') (h' : Turns t' t'') : Turns t t'' := by
  intro x old hx
  obtain ⟨new, hnew, hcases⟩ := h x old hx
  obtain ⟨newer, hnewer, hcases'⟩ := h' x new hnew
  refine ⟨newer, hnewer, ?_⟩
  rcases hcases' with rfl | hspoiled
  · exact hcases
  · exact Or.inr hspoiled

/-- The bytes of a text with the opening tag are spoiled. -/
theorem spoiled_of_tag {text : Text} {bytes : Bytes}
    (htag : Text.startsWith text Source.openingTag = true) (h : Utf8.encode text = .ok bytes) :
    Spoiled bytes := by
  obtain ⟨rest, rfl⟩ := Text.startsWith_iff.mp htag
  unfold Utf8.encode at h
  split at h
  next => cases h
  next =>
    cases h
    exact Or.inl ⟨_, rfl⟩

/-- The bytes of a file to which a declaration was added are spoiled. -/
theorem spoiled_of_addition {old bytes : Bytes} {text declaration : Text}
    (hold : Utf8.decode old = .ok text)
    (h : Utf8.encode (Route.addition declaration) = .ok bytes) : Spoiled (old ++ bytes) := by
  refine Or.inr ⟨text ++ .char '\n' :: Text.trimEnd CodePoint.isBlank
    (Text.trimEnd Route.isTerminator (Text.trim declaration)), ?_⟩
  rw [Utf8.decode_append hold (Utf8.decode_encode h)]
  simp [Route.addition, Route.normalize, Text.concat, Text.ofString]

/-- Writing source text spoils what it changes. -/
theorem turns_write {target : Path} {content : Text} {force written : Bool} {t t' : Tree}
    (htag : Text.startsWith content Source.openingTag = true)
    (h : Artifact.write target content force t = .ok written t') : Turns t t' := by
  intro x old hx
  rcases Artifact.write_file h hx with hx' | ⟨_, bytes, hbytes, hx'⟩
  · exact ⟨old, hx', Or.inl rfl⟩
  · exact ⟨bytes, hx', Or.inr (spoiled_of_tag htag hbytes)⟩

/-- Registering spoils what it changes. -/
theorem turns_register {path : Path} {declaration : Text} {added : Bool} {t t' : Tree}
    (h : Route.register path declaration t = .ok added t') : Turns t t' := by
  obtain ⟨t₁, x, old, text, hfile, _, hnode, hdecode, hcases⟩ := Route.register_ok h
  obtain ⟨_, hwrite⟩ := Route.ensureFile_ok hfile
  have hstarted := turns_write (by decide) hwrite
  rcases hcases with ⟨_, rfl, _⟩ | ⟨_, bytes, hbytes, rfl⟩
  · exact hstarted
  · apply hstarted.trans
    have hdirectory : t₁.node? x ≠ some .directory := ne_directory hnode
    intro y kept hy
    rw [Tree.node?_set t₁ (ne_root hdirectory)]
    by_cases hxy : x = y
    · rw [if_pos hxy]
      exact ⟨_, rfl, Or.inr (spoiled_of_addition hdecode hbytes)⟩
    · rw [if_neg hxy]
      exact ⟨kept, hy, Or.inl rfl⟩

/-! ## Loading again -/

/-- Whatever is wrong with a file of fields is told by the result, and the file stays. -/
theorem fieldsAt_returns (path : Path) (t : Tree) :
    ∃ found, Json.fieldsAt path t = .ok found t := by
  have hreads := reads_readText path t
  unfold Json.fieldsAt
  cases hcontent : readText path t with
  | error failure t' =>
    obtain rfl : t' = t := (Program.after_of_error hcontent).symm.trans hreads
    exact ⟨_, rfl⟩
  | ok content t' =>
    obtain rfl : t' = t := (Program.after_of_ok hcontent).symm.trans hreads
    dsimp only
    cases Json.read .lenient content with
    | error error => exact ⟨_, rfl⟩
    | ok v => exact ⟨_, rfl⟩

/-- Loading a structure file is reading its fields and looking at them. -/
theorem load_of_fieldsAt {path : Path} {t : Tree}
    {found : Except Json.FileError (List (Text × Json))}
    (h : Json.fieldsAt path t = .ok found t) :
    load path t = .ok ((found.mapError (.unreadable path)).bind (ofFields path)) t := by
  unfold load
  rw [Program.bind_of_ok h]
  cases found <;> rfl

/-- The same holds of a structure file. -/
theorem load_returns (path : Path) (t : Tree) : ∃ found, load path t = .ok found t := by
  obtain ⟨found, hfound⟩ := fieldsAt_returns path t
  exact ⟨_, load_of_fieldsAt hfound⟩

/-- Entries are loaded from the bytes of the file that the path leads to. -/
theorem load_ok {path : Path} {entries : List Entry} {t t' : Tree}
    (h : load path t = .ok (.ok entries) t') :
    t' = t ∧ ∃ x bytes text v, address path t = .ok x t ∧ t.node? x = some (.file bytes) ∧
      Utf8.decode bytes = .ok text ∧
      Json.read .lenient (universalLines false text) = .ok v ∧
      ofFields path (Json.fieldsOf v) = .ok entries := by
  unfold load at h
  obtain ⟨found, t₁, hfields, h⟩ := bind_ok_iff.mp h
  cases found with
  | error error =>
    obtain ⟨h, _⟩ := pure_ok_iff.mp h
    cases h
  | ok fields =>
    obtain ⟨hentries, rfl⟩ := pure_ok_iff.mp h
    unfold Json.fieldsAt at hfields
    cases hcontent : readText path t with
    | error failure t₂ =>
      rw [hcontent] at hfields
      cases hfields
    | ok content t₂ =>
      rw [hcontent] at hfields
      obtain rfl := (reads_readText path).tree_eq hcontent
      obtain ⟨bytes, text, hbytes, hdecode, rfl⟩ := readText_ok_iff.mp hcontent
      obtain ⟨_, x, hx, hnode⟩ := readBytes_ok_iff.mp hbytes
      cases hread : Json.read .lenient (universalLines false text) with
      | error error =>
        simp only [hread] at hfields
        cases hfields
      | ok v =>
        simp only [hread] at hfields
        cases hfields
        exact ⟨rfl, x, bytes, text, v, hx, hnode, hdecode, hread, hentries⟩

/-- Nothing is loaded from a spoiled file. -/
theorem read_spoiled {bytes : Bytes} {text : Text} (h : Spoiled bytes)
    (hdecode : Utf8.decode bytes = .ok text) (v : Json) :
    Json.read .lenient (universalLines false text) ≠ .ok v := by
  rcases h with ⟨rest, rfl⟩ | ⟨text', hdecode'⟩
  · -- The first byte is a code point of its own.
    have hstep : Utf8.step 0x3C rest = .point 0x3C 0 := rfl
    have htext : ∃ rest', text = .char '<' :: rest' := by
      obtain ⟨value, further, rest', hpoint, _, rfl⟩ := Utf8.decodeFrom_cons_ok hdecode
      rw [hstep] at hpoint
      cases hpoint
      exact ⟨rest', rfl⟩
    obtain ⟨rest', rfl⟩ := htext
    exact Json.read_tag .lenient (universalLines false rest') v
  · -- Reading leaves the semicolon and the line feed, whatever stands before them.
    rw [hdecode] at hdecode'
    cases hdecode'
    obtain ⟨next, hnext⟩ := universalLines_append false text' [.char ';', .char '\n']
    have hend : universalLines next [.char ';', .char '\n'] = [.char ';', .char '\n'] := by
      cases next <;> rfl
    rw [hnext, hend]
    exact Json.read_semicolon .lenient _ v

/-- Entries that are loaded again, after the files have only turned, are the same. -/
theorem load_stable {path : Path} {entries entries' : List Entry} {t t' t₁ t₂ : Tree}
    (hgrows : Grows t t') (hturns : Turns t t') (h : load path t = .ok (.ok entries) t₁)
    (h' : load path t' = .ok (.ok entries') t₂) : entries' = entries := by
  obtain ⟨_, x, bytes, text, v, hx, hnode, hdecode, hread, hentries⟩ := load_ok h
  obtain ⟨_, x', bytes', text', v', hx', hnode', hdecode', hread', hentries'⟩ := load_ok h'
  rw [hgrows.address hx] at hx'
  cases hx'
  obtain ⟨new, hnew, hcases⟩ := hturns x bytes hnode
  rw [hnew] at hnode'
  cases hnode'
  rcases hcases with rfl | hspoiled
  · rw [hdecode] at hdecode'
    cases hdecode'
    rw [hread] at hread'
    cases hread'
    rw [hentries] at hentries'
    cases hentries'
    rfl
  · exact absurd hread' (read_spoiled hspoiled hdecode' v')

end Scaffold.Structure
