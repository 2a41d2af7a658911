import Scaffold.Proofs.Artifact.Write
import Scaffold.Proofs.Files.Directories
import Scaffold.Proofs.Files.Lines
import Scaffold.Proofs.Json.Writing
import Scaffold.Proofs.Settings.Sound

/-!
# Saving settings and loading them again

Checked settings are read back from their document (`ofDocument_toDocument`). The document has an
encoding whenever the texts of the settings have one, and holds no carriage return, so a file gives
it back as it was written; hence loading undoes saving, and saving once more changes nothing
(`load_save`).

Reading is field by field, and each field is undone by its own lemma: a text, a map of texts in its
order, a path that is spelled as paths are read, a number below the bound on digits. The bound is
why settings have to be checked: a longer number is written but refused when it is read.

`Encodable` asks that no text of the settings holds a surrogate, which neither the environment nor a
file can bring in without escapes. `Obtained` names the two ways by which settings come to be, a
file and the environment, and both only give checked ones (`Obtained.sound`).
-/

namespace Scaffold

open Files (Path Tree)
open Json (Writable)

/-! ## The document -/

/-- The texts that settings hold. -/
def Settings.texts (s : Settings) : List Text :=
  s.databaseUrl.toList ++ [s.baseDirectory.toText] ++ s.directories.flatMap (fun e => [e.1, e.2])
    ++ [s.routesFile, s.routeTemplate] ++ (s.stubDirectory.map Path.toText).toList
    ++ (s.structureFile.map Path.toText).toList
    ++ [s.backend.provider, s.backend.url, s.backend.model]

/-- No text of the settings holds half of a surrogate pair. -/
def Settings.Encodable (s : Settings) : Prop :=
  ∀ t ∈ s.texts, ∀ c ∈ t, Utf8.isSurrogate c = false

instance (s : Settings) : Decidable s.Encodable :=
  inferInstanceAs (Decidable (∀ t ∈ s.texts, ∀ c ∈ t, Utf8.isSurrogate c = false))

/-- The names of the fields of the document, in its order. -/
def Settings.fieldNames : List Text :=
  ["database_url", "base_dir", "output_paths", "routes_file", "route_template", "templates_path",
   "structure_file", "force_overwrite", "debug", "backend"]

/-- The names of the fields of the backend, in the order of the document. -/
def BackendSettings.fieldNames : List Text := ["provider", "url", "model", "enabled", "timeout"]

/-- The document of checked backend settings has an encoding if their texts have one. -/
theorem BackendSettings.writable_toJson {b : BackendSettings} (hb : b.Sound)
    (htexts : ∀ t ∈ [b.provider, b.url, b.model], ∀ c ∈ t, Utf8.isSurrogate c = false)
    (depth : Nat) : Writable (depth + 1) b.toJson := by
  have hkeys : fieldNames.Nodup := by decide
  have hnames : ∀ k ∈ fieldNames, ∀ c ∈ k, Utf8.isSurrogate c = false := by decide
  have htimeout : (b.timeout : Int).natAbs < 10 ^ Json.maxDigits := hb.bounded
  refine .object hkeys hnames ?_
  simp only [List.forall_mem_cons, List.not_mem_nil, false_implies, implies_true, and_true]
    at htexts ⊢
  obtain ⟨hprovider, hurl, hmodel⟩ := htexts
  exact ⟨.text hprovider, .text hurl, .text hmodel, .bool _, .int htimeout⟩

/-- A text that has an encoding can be written, and so can the null that stands for none. -/
theorem Settings.writable_textOrNull {t : Option Text} {depth : Nat}
    (h : ∀ t' ∈ t.toList, ∀ c ∈ t', Utf8.isSurrogate c = false) :
    Writable depth (textOrNull t) := by
  cases t with
  | none => exact .null
  | some t => exact .text (h t (List.mem_singleton.mpr rfl))

/-- The document of checked settings has an encoding if their texts have one. -/
theorem Settings.writable_toJson {s : Settings} (hs : s.Sound) (h : s.Encodable) (depth : Nat) :
    Writable (depth + 2) s.toJson := by
  have hkeys : fieldNames.Nodup := by decide
  have hnames : ∀ k ∈ fieldNames, ∀ c ∈ k, Utf8.isSurrogate c = false := by decide
  unfold Encodable texts at h
  simp only [List.forall_mem_append, List.forall_mem_cons, List.not_mem_nil, false_implies,
    implies_true, and_true] at h
  obtain ⟨⟨⟨⟨⟨⟨hdatabase, hbase⟩, hdirectories⟩, hroutes, htemplate⟩, hstubs⟩, hstructure⟩,
    hbackend⟩ := h
  -- The directories are the one object whose keys are not fixed.
  have hmap : Writable (depth + 1) (.object (s.directories.map fun e => (e.1, .text e.2))) := by
    refine .object ?_ ?_ ?_
    · have hsame : Ordered.keys (s.directories.map fun e => (e.1, Json.text e.2)) =
          Ordered.keys s.directories := by
        unfold Ordered.keys
        rw [List.map_map]
        rfl
      exact hsame ▸ hs.directories
    · intro k hk
      obtain ⟨f, hf, rfl⟩ := List.mem_map.mp hk
      obtain ⟨e, he, rfl⟩ := List.mem_map.mp hf
      exact hdirectories _ (List.mem_flatMap.mpr ⟨e, he, List.mem_cons_self ..⟩)
    · intro f hf
      obtain ⟨e, he, rfl⟩ := List.mem_map.mp hf
      exact .text (hdirectories _ (List.mem_flatMap.mpr ⟨e, he,
        List.mem_cons_of_mem _ (List.mem_singleton.mpr rfl)⟩))
  refine .object hkeys hnames ?_
  simp only [List.forall_mem_cons, List.not_mem_nil, false_implies, implies_true, and_true]
  exact ⟨writable_textOrNull hdatabase, .text hbase, hmap, .text hroutes, .text htemplate,
    writable_textOrNull hstubs, writable_textOrNull hstructure, .bool _, .bool _,
    BackendSettings.writable_toJson hs.backend (by simpa using hbackend) depth⟩

/-! ## Reading the document -/

namespace Checked

variable {α : Type}

/-- A field that is there gives what its check gives. -/
theorem field_of_get? {fields : List (Text × Json)} {name : Text} {default : Option α}
    {check : Json → Checked α} {v : Json} {a : α} (h : Ordered.get? fields name = some v)
    (hcheck : check v = .value a) : field fields name default check = .value a := by
  unfold field
  rw [h]
  dsimp only
  rw [hcheck]
  rfl

/-- A map of texts is read back, with its order. -/
theorem textMap_go (m : Ordered Text) :
    textMap.go (m.map fun e => (e.1, .text e.2)) = .value m := by
  induction m with
  | nil => rfl
  | cons e m ih =>
    rw [List.map_cons, textMap.go, ih]
    rfl

end Checked

/-- Checked backend settings are read back from their document. -/
theorem BackendSettings.ofJson_toJson {b : BackendSettings} (hb : b.Sound) :
    ofJson b.toJson = .value b := by
  have hprovider : provider? (.text b.provider) = .value b.provider :=
    if_pos (List.elem_iff.mpr hb.provider)
  have hurl : Checked.text (.text b.url) = .value b.url := rfl
  have hmodel : Checked.text (.text b.model) = .value b.model := rfl
  have henabled : Checked.truth (.bool b.enabled) = .value b.enabled := rfl
  have htimeout : Checked.positive (.int b.timeout) = .value b.timeout :=
    if_pos (Int.ofNat_le.mpr hb.positive)
  show ofFields _ = _
  unfold ofFields
  dsimp only
  rw [Checked.field_of_get? rfl hprovider, Checked.field_of_get? rfl hurl,
    Checked.field_of_get? rfl hmodel, Checked.field_of_get? rfl henabled,
    Checked.field_of_get? rfl htimeout]
  rfl

/-- A text or its absence is read back. -/
theorem Settings.optional_text (t : Option Text) :
    Checked.optional Checked.text (textOrNull t) = .value t := by
  cases t <;> rfl

/-- A path or its absence is read back, if it is spelled as paths are read. -/
theorem Settings.optional_path {p : Option Path} (h : ∀ q ∈ p, q.Spelled) :
    Checked.optional Checked.path (textOrNull (p.map Path.toText)) = .value p := by
  cases p with
  | none => rfl
  | some q =>
    show Checked.value (some (Path.ofText q.toText)) = _
    rw [Path.ofText_toText (h q rfl)]

/-- Checked settings are read back from their document. -/
theorem Settings.ofJson_toJson {s : Settings} (hs : s.Sound) : ofJson s.toJson = .value s := by
  have hdatabase := optional_text s.databaseUrl
  have hbase : Checked.path (.text s.baseDirectory.toText) = .value s.baseDirectory :=
    congrArg Checked.value (Path.ofText_toText hs.baseDirectory)
  have hdirectories : Checked.textMap (.object (s.directories.map fun e => (e.1, .text e.2))) =
      .value s.directories := Checked.textMap_go s.directories
  have hroutes : Checked.text (.text s.routesFile) = .value s.routesFile := rfl
  have htemplate : Checked.text (.text s.routeTemplate) = .value s.routeTemplate := rfl
  have hstubs := optional_path hs.stubDirectory
  have hstructure := optional_path hs.structureFile
  have hforce : Checked.truth (.bool s.forceOverwrite) = .value s.forceOverwrite := rfl
  have hdebug : Checked.truth (.bool s.debug) = .value s.debug := rfl
  have hbackend := BackendSettings.ofJson_toJson hs.backend
  show ofFields _ = _
  unfold ofFields
  dsimp only
  rw [Checked.field_of_get? rfl hdatabase, Checked.field_of_get? rfl hbase,
    Checked.field_of_get? rfl hdirectories, Checked.field_of_get? rfl hroutes,
    Checked.field_of_get? rfl htemplate, Checked.field_of_get? rfl hstubs,
    Checked.field_of_get? rfl hstructure, Checked.field_of_get? rfl hforce,
    Checked.field_of_get? rfl hdebug, Checked.field_of_get? rfl hbackend]
  rfl

/-- Checked settings are read back from their document. -/
theorem Settings.ofDocument_toDocument {s : Settings} (hs : s.Sound) (h : s.Encodable) :
    ofDocument s.toDocument = .value s := by
  have hread : Json.read .strict s.toDocument = .ok s.toJson :=
    Json.read_page (writable_toJson hs h 198)
  unfold ofDocument
  rw [hread]
  exact ofJson_toJson hs

/-! ## The file -/

/-- The document holds neither surrogates nor carriage returns. -/
theorem Settings.mem_toDocument {s : Settings} (hs : s.Sound) (h : s.Encodable) {c : CodePoint}
    (hc : c ∈ s.toDocument) : Utf8.isSurrogate c = false ∧ c ≠ .char '\r' :=
  Json.mem_page (writable_toJson hs h 0) hc

namespace Settings

open Files (Access readBytes readText address ensureDirectories writeText)
open Program (bind_ok_iff ok_of_toOption)

/-- Settings that were loaded from a file or taken from the environment, and have been checked. -/
inductive Obtained (s : Settings) : Prop
  | loaded {p : Path} {t t' : Tree} (h : load p t = .ok (.ok s) t')
  | given {env : Environment} (h : env.settings = .ok s)

/-- Settings that were obtained are checked, by whichever way they came. -/
theorem Obtained.sound {s : Settings} (h : s.Obtained) : s.Sound := by
  cases h with
  | loaded h => exact sound_load h
  | given h => exact Environment.sound_settings h

/-- A file can be written at a path: the directories for it can be made, and then the path leads
to no directory. -/
def Place (t : Tree) (p : Path) : Prop :=
  ∃ t₁ x, ensureDirectories p.parent t = .ok () t₁ ∧ address p t₁ = .ok x t₁ ∧
    t₁.node? x ≠ some .directory

variable {s : Settings} {p : Path} {t t' : Tree}

/-- Settings are saved as artifacts are written. -/
theorem save_ok_iff : save s p t = .ok () t' ↔
    ∃ t₁ x bytes, Artifact.Writing p s.toDocument t t₁ t' x bytes := by
  constructor
  · intro h
    obtain ⟨_, t₁, hmade, hwritten⟩ := bind_ok_iff.mp h
    rw [Files.writeText_eq_edit] at hwritten
    obtain ⟨x, bytes, hx, hfree, hbytes, htakes, rfl⟩ := Files.edit_ok hwritten
    exact ⟨t₁, x, bytes, hmade, hx, hfree, hbytes, htakes, rfl⟩
  · rintro ⟨t₁, x, bytes, w⟩
    have hedit := Files.edit_of_address (fun _ => []) w.leads w.free w.encoded w.takes
    rw [w.tree]
    exact bind_ok_iff.mpr ⟨(), t₁, w.made, hedit⟩

/-- Loading gives back what was saved: the text goes through the file unchanged. -/
theorem load_of_writing {x : Files.Address} {t₁ : Tree} {bytes : Utf8.Bytes} (hs : s.Sound)
    (h : s.Encodable) (w : Artifact.Writing p s.toDocument t t₁ t' x bytes) :
    readBytes p t' = .ok bytes t' ∧ load p t' = .ok (.ok s) t' := by
  have hbytes : readBytes p t' = .ok bytes t' :=
    Files.readBytes_ok_iff.mpr ⟨rfl, x, w.leads_after, w.node?_self⟩
  have hlines : Files.universalLines false s.toDocument = s.toDocument :=
    Files.universalLines_of_not_mem fun hmem => (mem_toDocument hs h hmem).2 rfl
  have htext : readText p t' = .ok s.toDocument t' :=
    Files.readText_ok_iff.mpr ⟨bytes, _, hbytes, Utf8.decode_encode w.encoded, hlines.symm⟩
  refine ⟨hbytes, ?_⟩
  unfold load
  rw [htext]
  dsimp only
  rw [ofDocument_toDocument hs h]

/-- Where settings were saved, saving them again changes nothing. -/
theorem save_again {x : Files.Address} {t₁ : Tree} {bytes : Utf8.Bytes}
    (w : Artifact.Writing p s.toDocument t t₁ t' x bytes) : save s p t' = .ok () t' := by
  -- The directory that was made still stands, and the same bytes are put in the same place.
  have hgrows : Files.Grows t₁ t' := w.tree ▸ Files.grows_set w.free bytes
  have hmade : ensureDirectories p.parent t' = .ok () t' :=
    Files.ensureDirectories_again (hgrows.isDirectory (Files.ensureDirectories_directory w.made))
  have hfree : t'.node? x ≠ some .directory := by
    rw [w.node?_self]
    exact nofun
  have hsame : t' = t'.set x (.file bytes) := by rw [w.tree, Files.set_set]
  have htakes : t'.medium x [] bytes = none := by
    rw [hgrows.medium]
    exact w.takes
  exact save_ok_iff.mpr ⟨t', x, bytes, hmade, w.leads_after, hfree, w.encoded, htakes, hsame⟩

/-- Checked settings whose texts have an encoding go through a file unchanged. They can be saved
wherever a file can be written whose medium takes the document; the file has the bytes of their
document, whatever was there before, loading it gives the same settings, and saving these again
leaves everything as it is. -/
theorem load_save (hobtained : s.Obtained) (h : s.Encodable) :
    ∃ bytes, Utf8.encode s.toDocument = .ok bytes ∧ ∀ p t,
      ((∃ t', save s p t = .ok () t') ↔
        Place t p ∧ t.medium (t.destination p) [] bytes = none) ∧
      ∀ t', save s p t = .ok () t' → readBytes p t' = .ok bytes t' ∧
        load p t' = .ok (.ok s) t' ∧ save s p t' = .ok () t' := by
  have hs := hobtained.sound
  have hencode := Utf8.encode_of_chars fun c hc => (mem_toDocument hs h hc).1
  refine ⟨_, hencode, fun p t => ⟨?_, fun t' hsave => ?_⟩⟩
  · constructor
    · rintro ⟨t', hsave⟩
      obtain ⟨t₁, x, bytes, w⟩ := save_ok_iff.mp hsave
      have hbytes := w.encoded
      rw [hencode] at hbytes
      cases hbytes
      refine ⟨⟨t₁, x, w.made, w.leads, w.free⟩, ?_⟩
      rw [← w.place, ← w.gains.medium]
      exact w.takes
    · -- The medium is asked at the address that the path leads to once the directories are made;
      -- making them does not move it.
      rintro ⟨⟨t₁, x, hmade, hleads, hfree⟩, htakes⟩
      have hgains := Files.gains_of_made hmade
      obtain rfl : x = t.destination p :=
        (Files.destination_of_address hleads).trans (Files.destination_eq hgains.workingDirectory p)
      rw [← hgains.medium] at htakes
      exact ⟨_, save_ok_iff.mpr ⟨t₁, _, _, hmade, hleads, hfree, hencode, htakes, rfl⟩⟩
  · obtain ⟨t₁, x, bytes, w⟩ := save_ok_iff.mp hsave
    obtain ⟨hbytes, hload⟩ := load_of_writing hs h w
    have hsame := w.encoded
    rw [hencode] at hsame
    cases hsame
    exact ⟨hbytes, hload, save_again w⟩

/-- An environment with what a file might lose: a quote, a backslash, ends of lines, a control
character and a letter past ASCII, a path in need of tidying, and a number in digits of its own. -/
def intricateEnvironment : Environment :=
  [("TABLEGEN_DATABASE_URL", "sqlite:///\"caf\u00e9\\\r\n\x01.db"),
   ("TABLEGEN_BASE_DIR", "//srv/./app//"), ("TABLEGEN_TIMEOUT", "\u0661\u0662_\u0660")]

/-- The settings that it gives. -/
def intricateSettings : Settings :=
  { databaseUrl := some (Text.ofString "sqlite:///\"caf\u00e9\\\r\n\x01.db")
    baseDirectory := ⟨.doubleRoot, ["srv", "app"]⟩ }

/-- Intricate settings are saved in an empty tree below a directory that is not there yet, and come
back. -/
theorem load_save_intricate :
    let t : Tree := { workingDirectory := [], entries := [] }
    intricateEnvironment.settings = .ok intricateSettings ∧ intricateSettings.Encodable ∧
    ∃ t', save intricateSettings ⟨.here, ["conf", "settings"]⟩ t = .ok () t' ∧
      load ⟨.here, ["conf", "settings"]⟩ t' = .ok (.ok intricateSettings) t' ∧
      save intricateSettings ⟨.here, ["conf", "settings"]⟩ t' = .ok () t' := by
  intro t
  have hgiven : intricateEnvironment.settings = .ok intricateSettings :=
    ok_of_toOption (by decide +kernel)
  have hencodable : intricateSettings.Encodable := by decide +kernel
  obtain ⟨bytes, _, hall⟩ := load_save (.given hgiven) hencodable
  obtain ⟨hplace, hround⟩ := hall ⟨.here, ["conf", "settings"]⟩ t
  obtain ⟨t', hsave⟩ := hplace.mpr
    ⟨⟨{ t with entries := [(["conf"], .directory)] }, ["conf", "settings"], by rfl, by rfl,
      by decide⟩, rfl⟩
  exact ⟨hgiven, hencodable, t', hsave, (hround t' hsave).2⟩

end Settings

end Scaffold
