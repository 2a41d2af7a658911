import Scaffold.Json.Reader
import Scaffold.Json.Writer
import Scaffold.Settings.Basic
import Scaffold.Settings.Checked

/-!
# Settings as documents

Settings are kept as JSON. `Settings.ofJson` checks a document, in which every field may be left out
and unknown fields are passed over; `Settings.toDocument` writes one with every field.

Each field is one line of `ofFields`: its name, its default, and the check for it. The document that
is written has the same fields in the same order, so the two functions can be compared line by line,
and the theorem that reading undoes writing is put together field by field.

Paths are written as their texts. A path that was given with repeated slashes or points comes back
in the spelling that is left after reading, which is the one it has in the settings already.

A document is read by the strict grammar: half of a surrogate pair is refused, and so is nesting
deeper than any settings need.
-/

namespace Scaffold

open Files (Path)

/-- A path. -/
def Checked.path : Json → Checked Path
  | .text t => value (Path.ofText t)
  | _ => complain .notPath

namespace BackendSettings

/-- The providers there are: an inference server, and none. -/
def providers : List Text := ["ollama", "none"]

/-- The name of a provider. -/
def provider? : Json → Checked Text
  | .text t => if providers.elem t then .value t else .complain .unknownWord
  | _ => .complain .unknownWord

/-- The settings of the backend in a document. -/
def ofFields (fields : List (Text × Json)) : Checked BackendSettings :=
  let start : BackendSettings := {}
  mk <$> Checked.field fields "provider" (some start.provider) provider?
    <*> Checked.field fields "url" (some start.url) Checked.text
    <*> Checked.field fields "model" (some start.model) Checked.text
    <*> Checked.field fields "enabled" (some start.enabled) Checked.truth
    <*> Checked.field fields "timeout" (some start.timeout) Checked.positive

/-- The settings of the backend in a document. -/
def ofJson : Json → Checked BackendSettings
  | .object fields => ofFields fields
  | _ => .complain .notObject

/-- The settings of the backend as a document. -/
def toJson (b : BackendSettings) : Json :=
  .object
    [("provider", .text b.provider), ("url", .text b.url), ("model", .text b.model),
     ("enabled", .bool b.enabled), ("timeout", .int b.timeout)]

end BackendSettings

namespace Settings

/-- The settings in a document. -/
def ofFields (fields : List (Text × Json)) : Checked Settings :=
  let start : Settings := {}
  mk <$> Checked.field fields "database_url" (some start.databaseUrl) (Checked.optional Checked.text)
    <*> Checked.field fields "base_dir" (some start.baseDirectory) Checked.path
    <*> Checked.field fields "output_paths" (some start.directories) Checked.textMap
    <*> Checked.field fields "routes_file" (some start.routesFile) Checked.text
    <*> Checked.field fields "route_template" (some start.routeTemplate) Checked.text
    <*> Checked.field fields "templates_path" (some start.stubDirectory)
      (Checked.optional Checked.path)
    <*> Checked.field fields "structure_file" (some start.structureFile)
      (Checked.optional Checked.path)
    <*> Checked.field fields "force_overwrite" (some start.forceOverwrite) Checked.truth
    <*> Checked.field fields "debug" (some start.debug) Checked.truth
    <*> Checked.field fields "backend" (some start.backend) BackendSettings.ofJson

/-- The settings in a document. -/
def ofJson : Json → Checked Settings
  | .object fields => ofFields fields
  | _ => .complain .notObject

/-- The settings in the text of a document. -/
def ofDocument (t : Text) : Checked Settings :=
  match Json.read .strict t with
  | .ok v => ofJson v
  | .error _ => .complain .notJson

/-- A text, or null. -/
def textOrNull : Option Text → Json
  | some t => .text t
  | none => .null

/-- The settings as a document. -/
def toJson (s : Settings) : Json :=
  .object
    [("database_url", textOrNull s.databaseUrl),
     ("base_dir", .text s.baseDirectory.toText),
     ("output_paths", .object (s.directories.map fun (k, v) => (k, .text v))),
     ("routes_file", .text s.routesFile),
     ("route_template", .text s.routeTemplate),
     ("templates_path", textOrNull (s.stubDirectory.map Path.toText)),
     ("structure_file", textOrNull (s.structureFile.map Path.toText)),
     ("force_overwrite", .bool s.forceOverwrite),
     ("debug", .bool s.debug),
     ("backend", s.backend.toJson)]

/-- The text of the settings as a document. -/
def toDocument (s : Settings) : Text := s.toJson.page

end Settings

end Scaffold
