import Scaffold.Proofs.Artifact.Listed
import Scaffold.Proofs.Run.Batch

/-!
# From the structure file to the artifacts

If the structure file passes the check, and every option in it that an artifact can have is a text,
then every table has the artifacts that the list in the file describes, at the first table as at
every later one (`resolveArtifacts_listed`). What a list describes is told by `Artifact.Resolved`:
one artifact for each name, in the order of the first entries of the names, each with the options of
its own entry or the defaults of its kind.

Another file leads to the same artifacts if it asks for built-in kinds in other places, or once more
for what was asked for already. `Artifact.Moved` says which rearrangements are meant: entries may
change places as long as the order of the first custom entries stays.

The file is read once. After that the entries are in the session, and the artifacts of later tables
follow from there; so the first part of the theorem speaks of every session with the same entries,
whatever has become of the file. The second speaks of a session that has yet to read another file.
-/

namespace Scaffold.Run

open Files (Path)
open Structure (listed)

/-- A structure file whose list is acceptable is loaded, and its entries are kept. -/
theorem loadStructure_listed {g : Generator} {path : Path} {s : Session}
    (hfile : g.settings.structureFile = some path) (hfresh : s.entries = none)
    (h : Structure.Acceptable (listed path s.tree)) :
    loadStructure g s = .ok (some ((listed path s.tree).map Entry.ofValue))
      { s with entries := some ((listed path s.tree).map Entry.ofValue) } := by
  have hload := Structure.load_listed_iff.mpr ⟨h, rfl⟩
  unfold loadStructure
  simp only [hfile]
  rw [Program.bind_get, hfresh]
  dsimp only
  rw [Program.bind_of_ok (files_ok_iff.mpr ⟨_, hload, rfl⟩)]
  rfl

/-- A structure that was loaded has passed the check. -/
theorem acceptable_of_loadStructure {g : Generator} {path : Path} {s s' : Session}
    {loaded : Option (List Entry)} (hfile : g.settings.structureFile = some path)
    (hfresh : s.entries = none) (h : loadStructure g s = .ok loaded s') :
    Structure.Acceptable (listed path s.tree) := by
  obtain ⟨_, _, hgiven, _⟩ := loadStructure_ok h
  rcases hgiven with hknown | ⟨path', t, hfile', _, hload⟩
  · rw [known_of_file hfile, hfresh] at hknown
    cases hknown
  · rw [hfile] at hfile'
    cases hfile'
    obtain ⟨rfl, _⟩ := Structure.load_ok hload
    exact (Structure.load_listed_iff.mp hload).1

/-- For a structure file that passes the check and whose options are texts, the artifacts of a table
are one for every name in it, the built-in kinds first and the others in the order of their first
entries, and each is what the first entry of its name describes. It does not matter whether the
file is read for this table, or was read before; nor where in the list the built-in kinds stand, as
long as the entries of each keep their order; nor what is asked for again. -/
theorem resolveArtifacts_listed {g : Generator} {path : Path} {s s₁ : Session}
    {loaded : Option (List Entry)} (hfile : g.settings.structureFile = some path)
    (hfresh : s.entries = none) (hload : loadStructure g s = .ok loaded s₁)
    (hworded : ∀ v ∈ listed path s.tree, (Entry.ofValue v).Worded) (className : Text) :
    ∃ artifacts,
      (∀ s', s' = s ∨ s'.entries = s₁.entries →
        ∃ s'', resolveArtifacts g className s' = .ok artifacts s'') ∧
      Artifact.Resolved g.settings className ((listed path s.tree).map Entry.ofValue) artifacts ∧
      ∀ {s' : Session} {values' more : List Json}, s'.entries = none →
        listed path s'.tree = values' ++ more →
        Artifact.Moved Json.typeName (listed path s.tree) values' →
        (∀ v ∈ more, v.typeName ∈ (listed path s.tree).map Json.typeName) →
        ∃ s'', resolveArtifacts g className s' = .ok artifacts s'' := by
  have hacceptable := acceptable_of_loadStructure hfile hfresh hload
  have hread := loadStructure_listed hfile hfresh hacceptable
  rw [hread] at hload
  cases hload
  have hentries : ∀ e ∈ (listed path s.tree).map Entry.ofValue, e.Worded := by
    intro e he
    obtain ⟨v, hv, rfl⟩ := List.mem_map.mp he
    exact hworded v hv
  obtain ⟨artifacts, hresolve, hresolved⟩ :
      ∃ artifacts, Artifact.resolve g.settings ((listed path s.tree).map Entry.ofValue) className =
          .ok artifacts ∧
        Artifact.Resolved g.settings className ((listed path s.tree).map Entry.ofValue) artifacts :=
    Artifact.resolve_resolved hentries
  refine ⟨artifacts, ?_, hresolved, ?_⟩
  · -- At the first table the file is read, at every later one the entries are recalled.
    rintro s' (rfl | hsame)
    · rw [resolveArtifacts_of_load hread]
      exact ⟨_, orFault_ok_iff.mpr ⟨hresolve, rfl⟩⟩
    · rw [resolveArtifacts_of_known ((known_of_file hfile).mpr hsame)]
      exact ⟨_, orFault_ok_iff.mpr ⟨hresolve, rfl⟩⟩
  · intro s' values' more hfresh' hlisted hmoved hknown
    have hacceptable' : Structure.Acceptable (listed path s'.tree) := by
      rw [hlisted]
      exact hacceptable.moved hmoved hknown
    rw [resolveArtifacts_of_load (loadStructure_listed hfile hfresh' hacceptable')]
    refine ⟨_, orFault_ok_iff.mpr ⟨?_, rfl⟩⟩
    show Artifact.resolve g.settings ((listed path s'.tree).map Entry.ofValue) className = _
    rw [hlisted, Structure.resolve_moved hmoved hknown, hresolve]

/-! ## A small example -/

/-- What a structure file holds that lists these values. -/
def fileOfValues (values : List Json) : Json := .object [("artifacts", .list values)]

/-- A session in a directory with such a structure file. -/
def listingSession (values : List Json) : Session := usersSession (fileOfValues values).page []

/-- The structure file is where the settings say. -/
theorem address_listingSession (values : List Json) :
    Files.address (Path.ofText "structure.json") (listingSession values).tree =
      .ok ["structure.json"] (listingSession values).tree := by
  have hpath : Path.ofText "structure.json" = ⟨.here, [Text.ofString "structure.json"]⟩ := by
    decide
  have hstep : Files.Tree.stepTo [] "structure.json" = [Text.ofString "structure.json"] := by
    decide
  rw [hpath]
  refine Files.address_ok_iff.mpr ⟨rfl, by decide, by decide, ?_⟩
  unfold Files.Tree.walk
  rw [if_neg (by decide), ← hstep]
  rfl

/-- What stands in it is what was written to it. -/
theorem listed_listingSession {values : List Json} (h : ∀ v ∈ values, Json.Writable 988 v) :
    listed (Path.ofText "structure.json") (listingSession values).tree = values := by
  have hwritable : Json.Writable Json.Grammar.lenient.maxDepth (fileOfValues values) := by
    have hkey : ∀ k ∈ [Text.ofString "artifacts"], ∀ c ∈ k, Utf8.isSurrogate c = false := by
      decide
    refine .object (List.pairwise_singleton ..) hkey fun f hf => ?_
    rw [List.mem_singleton.mp hf]
    exact .list h
  have hencode := Utf8.encode_of_chars fun c hc => (Json.mem_page hwritable hc).1
  have hnode : (listingSession values).tree.node? ["structure.json"] =
      some (textFile (fileOfValues values).page) := by
    simp [listingSession, usersSession, Files.Tree.node?, Files.Tree.lookup]
  rw [textFile, hencode] at hnode
  exact Structure.listed_page (address_listingSession values) hnode hencode hwritable

/-- A model by a stub of its own. -/
def plainModel : Json := .object [("type", .text "model"), ("template", .text "plain")]

/-- A plain entry can be written to a file and read back. -/
theorem writable_plainModel : Json.Writable 988 plainModel := by
  refine .object (by decide) (by decide) fun f hf => ?_
  simp only [List.mem_cons, List.not_mem_nil, or_false] at hf
  rcases hf with rfl | rfl <;> exact .text (by decide)

/-- A service is asked for before a note and a model, or after them; and the model a second time. -/
theorem resolveArtifacts_listed_service :
    let g := usersGenerator .none .unreachable
    let values := [.text "service", .text " note ", plainModel]
    let values' := [.text " note ", plainModel, .text "service"]
    ∃ artifacts s₁ s₂, resolveArtifacts g "User" (listingSession values) = .ok artifacts s₁ ∧
      resolveArtifacts g "User" (listingSession (values' ++ [.text "model"])) =
        .ok artifacts s₂ ∧
      artifacts.map Artifact.name = ["model", "service", "note"].map Text.ofString := by
  intro g values values'
  have hservice : Json.Writable 988 (.text "service") := .text (by decide)
  have hnote : Json.Writable 988 (.text " note ") := .text (by decide)
  have hmodel : Json.Writable 988 (.text "model") := .text (by decide)
  have hlisted : listed (Path.ofText "structure.json") (listingSession values).tree = values :=
    listed_listingSession (by simp [values, hservice, hnote, writable_plainModel])
  have hlisted' : listed (Path.ofText "structure.json")
      (listingSession (values' ++ [.text "model"])).tree = values' ++ [.text "model"] :=
    listed_listingSession (by simp [values', hservice, hnote, hmodel, writable_plainModel])
  have hacceptable : Structure.Acceptable values := ⟨List.cons_ne_nil _ _, by decide⟩
  have hworded : ∀ v ∈ values, (Entry.ofValue v).Worded := by decide
  have hpast : ∀ {v : Json}, Text.ofString "service" ≠ v.typeName → ∀ before after : List Json,
      Artifact.Moved Json.typeName (before ++ .text "service" :: v :: after)
        (before ++ v :: .text "service" :: after) :=
    fun hne => Artifact.Moved.swap hne (Or.inl (by decide))
  have hmoved : Artifact.Moved Json.typeName values values' :=
    (hpast (v := .text " note ") (by decide) [] [plainModel]).trans
      (hpast (v := plainModel) (by decide) [.text " note "] [])
  rw [← hlisted] at hacceptable hworded hmoved
  obtain ⟨artifacts, hread, hresolved, hmoves⟩ := resolveArtifacts_listed (g := g) rfl rfl
    (loadStructure_listed rfl rfl hacceptable) hworded "User"
  obtain ⟨s₁, hs₁⟩ := hread _ (Or.inl rfl)
  obtain ⟨s₂, hs₂⟩ := hmoves rfl hlisted' hmoved (by rw [hlisted]; decide)
  refine ⟨artifacts, s₁, s₂, hs₁, hs₂, ?_⟩
  rw [hresolved.order, hlisted]
  decide

end Scaffold.Run
