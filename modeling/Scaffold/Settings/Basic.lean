import Scaffold.Artifact.Layout
import Scaffold.Files.Path

/-!
# Settings

What a run is told: where the application stands and how it is laid out, where stubs and the
structure come from, and which backend is asked.

Settings are plain data here: whatever has these types is a value of `Settings`, also one that no
document describes. Which values come of documents and environments is a theorem (`Settings.Sound`),
and so is that these go through a file unchanged (`Proofs.Settings.RoundTrip`).

Directories are kept as texts beside the directory of the application, and become paths where they
are asked for: a kind that is not listed gets a directory named after it. An empty directory is a
directory for files (that of the application itself), but spells no namespace, so that the namespace
is the one of the fallback. The two rules meet in `directoryOf` and `namespaceOf`, which look alike
and differ in this.

The template of the route is any text. Nothing checks its fields before the first table is
generated.
-/

namespace Scaffold

open Files (Path)

/-- The settings of the backend. -/
structure BackendSettings where
  provider : Text := "ollama"
  url : Text := "http://localhost:11434"
  model : Text := "codellama:latest"
  /-- Without it every artifact comes from a stub. -/
  enabled : Bool := true
  /-- How many seconds a request may take; at least one. -/
  timeout : Nat := 120
  deriving DecidableEq, Inhabited

/-- The settings of a run. -/
structure Settings where
  databaseUrl : Option Text := none
  /-- The directory of the application. -/
  baseDirectory : Path := ⟨.here, []⟩
  /-- The directory of each kind of artifact, inside the application. -/
  directories : Ordered Text := defaultDirectories
  /-- The routes file, inside the application. -/
  routesFile : Text := "routes/api.php"
  /-- The route declaration of a table, with places for the table and its class. -/
  routeTemplate : Text := "Route::apiResource('\x7btable\x7d', '\x7bclass_name\x7dController');"
  /-- The directory of stubs, if not the bundled ones are used. -/
  stubDirectory : Option Path := none
  /-- The file that lists the artifacts, if not the built-in ones are generated. -/
  structureFile : Option Path := none
  forceOverwrite : Bool := false
  debug : Bool := false
  backend : BackendSettings := {}
  deriving DecidableEq, Inhabited

namespace Settings

/-- The routes file as a path. -/
def routesPath (s : Settings) : Path := s.baseDirectory / Path.ofText s.routesFile

/-- The directory of artifacts that the settings do not mention. -/
def fallbackDirectory (name : Text) : Text := "app/" ++ Naming.studly name

/-- Where artifacts of a name are written. -/
def directoryOf (s : Settings) (name : Text) : Path :=
  s.baseDirectory /
    Path.ofText ((Ordered.get? s.directories name).getD (fallbackDirectory name))

/-- The namespace of artifacts of a name. Where the settings give an empty directory, it is that
of the fallback. -/
def namespaceOf (s : Settings) (name : Text) : Text :=
  match Ordered.get? s.directories name with
  | some (c :: rest) => Naming.namespaceOf (c :: rest)
  | _ => Naming.namespaceOf (fallbackDirectory name)

/-- The namespaces of the directories that the settings mention. -/
def namespaces (s : Settings) : Ordered Text := namespacesOf s.directories

end Settings

end Scaffold
