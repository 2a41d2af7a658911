import Scaffold.Proofs.Artifact.Resolve
import Scaffold.Proofs.Files.Preservation
import Scaffold.Proofs.Naming.Words

/-!
# The standard layout

Settings that leave the layout of the application as it is by default and name no structure file
(`Settings.Standard`) give every table the five built-in artifacts (`resolve_default`). If the class
of the table is plain, each of them leads to a file of its own, in the directory of its kind inside
the application (`destination_target`), and never to the routes file (`target_ne_routes`).

A place inside the application is a list of names (`slot`). Different kinds have different
directories, and of one kind different classes have different files, so slots are told apart by
their last names but one and their last; the directory of the application does not matter, however
it is reached.

Plain classes are needed because a class name goes into a path as text: one with a slash in it would
be a place of another shape.
-/

namespace Scaffold

open Files (Address Path Tree)

/-- The settings leave the layout of the application, the routes and the artifacts as they are by
default. -/
structure Settings.Standard (s : Settings) : Prop where
  directories : s.directories = ({} : Settings).directories
  routesFile : s.routesFile = ({} : Settings).routesFile
  routeTemplate : s.routeTemplate = ({} : Settings).routeTemplate
  structureFile : s.structureFile = ({} : Settings).structureFile

/-- The segments of the default directory of a built-in kind. -/
def Kind.directory : Kind → List Text
  | .model => ["app", "Models"]
  | .request => ["app", "Http", "Requests"]
  | .resource => ["app", "Http", "Resources"]
  | .service => ["app", "Services"]
  | .controller => ["app", "Http", "Controllers", "Api"]
  | .custom => []

/-- The segments of the default routes file. -/
def Route.defaultSegments : List Text := ["routes", "api.php"]

namespace Files

/-! ## Names as paths -/

/-- A name without slashes is a path of its own, if it is neither empty nor a point. -/
theorem ofText_of_name {name : Text} (hslash : CodePoint.char '/' ∉ name) (hne : name ≠ [])
    (hpoint : name ≠ Text.ofString ".") : Path.ofText name = ⟨.here, [name]⟩ := by
  have hnone : ∀ c ∈ name, (decide (c = CodePoint.char '/')) = false := by
    intro c hc
    exact decide_eq_false fun heq => hslash (heq ▸ hc)
  have hstart : (name.takeWhile fun c : CodePoint => c = .char '/') = [] := by
    cases name with
    | nil => rfl
    | cons c name => rw [List.takeWhile_cons, hnone c (List.mem_cons_self ..)]; rfl
  have hsegments : Path.segmentsOf name = [name] := by
    unfold Path.segmentsOf Text.pieces
    rw [Text.splitWhere_of_none hnone]
    simp [hne, hpoint]
  unfold Path.ofText
  simp only [hstart, hsegments]
  rfl

end Files

namespace Artifact

/-! ## The artifacts of a class -/

/-- The artifact of a built-in kind that no entry gives options. -/
def standard (s : Settings) (base : Text) (kind : Kind) : Artifact where
  kind
  name := kind.name
  className := base ++ suffixOf kind
  target := fileOf (s.directoryOf kind.name) (base ++ suffixOf kind)
  classNamespace := s.namespaceOf kind.name

/-- Without a structure file a table has one artifact of each built-in kind. -/
theorem resolve_default (s : Settings) (base : Text) :
    resolve s Structure.default base = .ok (Kind.builtin.map (standard s base)) := rfl

/-- The name of the file of an artifact. -/
def fileName (base : Text) (kind : Kind) : Text := base ++ suffixOf kind ++ ".php"

/-- What built-in kinds add to a class is plain. -/
theorem suffixOf_plain {kind : Kind} (hkind : kind ∈ Kind.builtin) : Plain (suffixOf kind) := by
  revert kind
  decide

/-- A file name is longer than a path segment with a meaning of its own. -/
theorem fileName_length (base : Text) (kind : Kind) : 4 ≤ (fileName base kind).length := by
  have hlength : (fileName base kind).length = (base ++ suffixOf kind).length + 4 :=
    List.length_append
  omega

/-- The file of a plain class is a single segment. -/
theorem fileName_path {base : Text} {kind : Kind} (hkind : kind ∈ Kind.builtin)
    (h : Plain base) : Path.ofText (fileName base kind) = ⟨.here, [fileName base kind]⟩ := by
  have hlength := fileName_length base kind
  apply Files.ofText_of_name
  · unfold fileName
    rw [List.mem_append]
    rintro (hslash | hslash)
    · exact absurd (h.append (suffixOf_plain hkind) _ hslash) (by decide)
    · exact absurd hslash (by decide)
  · intro heq
    rw [heq] at hlength
    exact absurd hlength (by decide)
  · intro heq
    rw [heq] at hlength
    exact absurd hlength (by decide)

variable {s : Settings} {base : Text} {kind : Kind}

theorem directoryOf_standard (hs : s.Standard) (hkind : kind ∈ Kind.builtin) :
    s.directoryOf kind.name =
      ⟨s.baseDirectory.anchor, s.baseDirectory.segments ++ kind.directory⟩ := by
  have hdefault : ∀ kind ∈ Kind.builtin,
      (Ordered.get? ({} : Settings).directories kind.name).map Path.ofText =
        some ⟨.here, kind.directory⟩ := by
    decide
  obtain ⟨directory, hdirectory, hpath⟩ := Option.map_eq_some_iff.mp (hdefault kind hkind)
  unfold Settings.directoryOf
  rw [hs.directories, hdirectory, Option.getD_some, hpath]
  rfl

/-- By default an artifact stands in the directory of its kind, in the file of its class. -/
theorem target_standard (hs : s.Standard) (hkind : kind ∈ Kind.builtin) (h : Plain base) :
    (standard s base kind).target = ⟨s.baseDirectory.anchor,
      s.baseDirectory.segments ++ kind.directory ++ [fileName base kind]⟩ := by
  show s.directoryOf kind.name / Path.ofText (fileName base kind) = _
  rw [directoryOf_standard hs hkind, fileName_path hkind h]
  rfl

/-- The routes file stands in a directory of its own. -/
theorem routesPath_standard (hs : s.Standard) :
    s.routesPath =
      ⟨s.baseDirectory.anchor, s.baseDirectory.segments ++ Route.defaultSegments⟩ := by
  have hpath : Path.ofText ({} : Settings).routesFile = ⟨.here, Route.defaultSegments⟩ := by decide
  unfold Settings.routesPath
  rw [hs.routesFile, hpath]
  rfl

/-! ## Where they lead -/

/-- The segments of a file inside the application. -/
def slot (base : Text) (kind : Kind) : List Text := kind.directory ++ [fileName base kind]

/-- No default place leads upwards. -/
theorem slot_down (hkind : kind ∈ Kind.builtin) : Text.ofString ".." ∉ slot base kind := by
  have hdirectory : ∀ kind ∈ Kind.builtin, Text.ofString ".." ∉ kind.directory := by decide
  unfold slot
  rw [List.mem_append, List.mem_singleton]
  rintro (hmem | heq)
  · exact hdirectory kind hkind hmem
  · have hlength := fileName_length base kind
    rw [← heq] at hlength
    exact absurd hlength (by decide)

/-- The file of one artifact is not on the way to that of another. -/
theorem slot_prefix {base' : Text} {kind' : Kind} (hkind : kind ∈ Kind.builtin)
    (hkind' : kind' ∈ Kind.builtin) (h : slot base kind <+: slot base' kind') :
    base = base' ∧ kind = kind' := by
  have hdirectories : ∀ kind ∈ Kind.builtin, ∀ kind' ∈ Kind.builtin,
      kind.directory <+: kind'.directory → kind = kind' := by
    decide
  unfold slot at h
  rcases List.prefix_concat_iff.mp h with heq | hinside
  · obtain ⟨hdirectory, hname⟩ := List.append_inj' heq rfl
    obtain rfl := hdirectories kind hkind kind' hkind' (hdirectory ▸ List.prefix_refl _)
    refine ⟨?_, rfl⟩
    unfold fileName at hname
    exact List.append_cancel_right (List.append_cancel_right (List.cons.inj hname).1)
  · -- The directories are the same then, and leave no room for a file.
    obtain rfl := hdirectories kind hkind kind' hkind' ((List.prefix_append _ _).trans hinside)
    have hlength := hinside.length_le
    rw [List.length_append, List.length_singleton] at hlength
    omega

/-- The file of an artifact is not on the way to the routes file. -/
theorem slot_routes (hkind : kind ∈ Kind.builtin) :
    ¬ slot base kind <+: Route.defaultSegments := by
  have hfirst : ∀ kind ∈ Kind.builtin, kind.directory.head? = some (Text.ofString "app") := by
    decide
  obtain ⟨rest, hrest⟩ := List.head?_eq_some_iff.mp (hfirst kind hkind)
  unfold slot
  rw [hrest]
  intro hprefix
  exact absurd (List.cons_prefix_cons.mp hprefix).1 (by decide)

/-- An artifact leads to its place inside the application, wherever that stands. -/
theorem destination_target (hs : s.Standard) (hkind : kind ∈ Kind.builtin) (h : Plain base)
    (t : Tree) :
    t.destination (standard s base kind).target =
      t.destination s.baseDirectory ++ slot base kind := by
  rw [target_standard hs hkind h]
  unfold Tree.destination
  rw [List.append_assoc, List.foldl_append]
  exact Files.foldl_stepTo (slot_down hkind) _

/-- So the routes file is found below the directory of the application. -/
theorem destination_routes (hs : s.Standard) (t : Tree) :
    t.destination s.routesPath = t.destination s.baseDirectory ++ Route.defaultSegments := by
  rw [routesPath_standard hs]
  unfold Tree.destination
  rw [List.foldl_append]
  exact Files.foldl_stepTo (by decide) _

/-- No artifact leads to the routes file. -/
theorem target_ne_routes (hs : s.Standard) (hkind : kind ∈ Kind.builtin) (h : Plain base)
    (t : Tree) : t.destination (standard s base kind).target ≠ t.destination s.routesPath := by
  rw [destination_target hs hkind h, destination_routes hs]
  intro heq
  have hprefix : slot base kind <+: Route.defaultSegments :=
    List.append_cancel_left heq ▸ List.prefix_refl (slot base kind)
  exact slot_routes hkind hprefix

/-- From a base directory without `..`, the paths to the artifacts have none. -/
theorem target_down (hs : s.Standard) (hbase : Text.ofString ".." ∉ s.baseDirectory.segments)
    (hkind : kind ∈ Kind.builtin) (h : Plain base) :
    Text.ofString ".." ∉ (standard s base kind).target.segments := by
  rw [target_standard hs hkind h, List.append_assoc, List.mem_append, not_or]
  exact ⟨hbase, slot_down hkind⟩

theorem routesPath_down (hs : s.Standard)
    (hbase : Text.ofString ".." ∉ s.baseDirectory.segments) :
    Text.ofString ".." ∉ s.routesPath.segments := by
  rw [routesPath_standard hs, List.mem_append, not_or]
  exact ⟨hbase, by decide⟩

end Artifact

end Scaffold
