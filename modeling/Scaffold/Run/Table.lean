import Scaffold.Artifact.Write
import Scaffold.Routes
import Scaffold.Run.Source
import Scaffold.Schema.Document

/-!
# Generating a table

The artifacts of a table are generated one after another, and its route is registered at the end. A
table whose columns cannot be read is reported and left alone; everything else that the catalog
fails to tell is only missing from what is generated.

The order of the steps is that of the program, as it can be seen from outside: in what stands in the
files when a later step breaks the run off.

* The clock is read, then the columns. Their failure ends the table with a report.
* Database name, relations and unique columns are asked for; the metadata are derived.
* The artifacts are resolved from the structure, which is read at the first table that needs it.
* For each artifact: its text, its file, and a line about both.
* The route is filled in and registered, and a line says so.
* The clock is read again, for the line about the table.

The template of the route is only looked at when all artifacts of the table are written.
`Proofs.Run.Completion` draws the consequence.

The trail of an artifact is put together when its file is written, and not stage by stage: nobody
sees it before.
-/

namespace Scaffold.Run

open Files (Path)

/-- A path as it is shown: from the directory of the application if it lies inside. -/
def shownPath (g : Generator) (p : Path) : Text :=
  ((p.relativeTo? g.settings.baseDirectory).getD p).toText

/-- The status of an artifact by what its text comes from and whether it was written. -/
def statusOf (verdict : Verdict) (written : Bool) : Status :=
  if written then
    match verdict with
    | .accepted _ => .fromBackend
    | _ => .fromStub
  else .skipped

/-- How wide the names of artifacts are shown. -/
def nameWidth : Nat := 10

/-- The line about an artifact. -/
def outcomeLine (g : Generator) (a : Artifact) (status : Status) : Message :=
  .line (Text.concat ["  [", status.style, "]", Text.padEnd nameWidth a.name, "[/", status.style,
    "] ", a.className, " -> ", shownPath g a.target, " [", status.style, "](", status.name, ")[/",
    status.style, "]"])

/-- Generates one artifact. -/
def generateArtifact (g : Generator) (m : Schema.Metadata) (force : Bool) (a : Artifact) :
    Step Outcome := do
  let produced ← produce g a m
  let written ← Step.files (Artifact.write a.target produced.text force)
  let status := statusOf produced.verdict written
  Step.say g.console [outcomeLine g a status]
  return {
    artifact := a
    status
    stages := [.requested, .prompted] ++ produced.verdict.stages ++
      [.writing, if written then .written else .skipped] }

/-- The entries of the structure file, which is read once; none if no file is given. -/
def loadStructure (g : Generator) : Step (Option (List Entry)) := do
  match g.settings.structureFile with
  | none => return none
  | some path =>
    match (← get).entries with
    | some entries => return some entries
    | none =>
      let entries ← Step.orFault .structureFile (← Step.files (Structure.load path))
      modify fun s => { s with entries := some entries }
      return some entries

/-- The artifacts of a table by the class of its rows. -/
def resolveArtifacts (g : Generator) (className : Text) : Step (List Artifact) := do
  let entries := (← loadStructure g).getD Structure.default
  Step.orFault .artifact (Artifact.resolve g.settings entries className)

/-- The values for the fields of the route declaration. -/
def routeValues (m : Schema.Metadata) : Ordered Text :=
  [("table", m.tableName), ("class_name", m.className)]

/-- The line about a route. -/
def routeLine (declaration : Text) (added : Bool) : Message :=
  .line (if added then Text.ofString "  [green]+[/green] route " ++ Route.normalize declaration
    else "  [dim]route already registered[/dim]")

/-- Registers the route of a table and says whether it was not there before. -/
def registerRoute (g : Generator) (m : Schema.Metadata) : Step Bool := do
  let declaration ← Step.orFault .route
    (Pattern.fill g.attributes (routeValues m) g.settings.routeTemplate)
  let added ← Step.files (Route.register g.settings.routesPath declaration)
  Step.say g.console [routeLine declaration added]
  return added

/-- What the catalog tells, with what there is to say about it. -/
def lookUp {α : Type} (g : Generator)
    (found : Except Schema.CatalogError (α × List Message)) : Step α := do
  let (a, messages) ← Step.orFault .catalog found
  Step.say g.console messages
  return a

/-- The relations of a table. -/
def readRelations (g : Generator) (database : Option Text) (table : Text) :
    Step (List Schema.Relation) :=
  lookUp g (g.catalog.relations database table)

/-- The columns of a table whose values are unique. -/
def readUniqueColumns (g : Generator) (database : Option Text) (table : Text) : Step (List Text) :=
  lookUp g (g.catalog.uniqueColumns database table)

/-- What is known about a table with some columns. -/
def deriveMetadata (g : Generator) (table : Text) (columns : List Schema.Column) :
    Step Schema.Metadata := do
  let database ← Step.orFault .catalog g.catalog.databaseName
  let relations ← readRelations g database table
  let unique ← readUniqueColumns g database table
  return .derive table columns relations unique

/-- What is printed before the artifacts of a table. -/
def tableHeader (m : Schema.Metadata) : List Message :=
  [.line [],
   .rule (Text.concat ["[bold bright_cyan] ", m.tableName, " -> ", m.className,
     " [/bold bright_cyan]"]) "bright_cyan"]

/-- The line about a generated table. -/
def tableLine (r : TableReport) (elapsed : Text) : Message :=
  let count (status : Status) : Text := Text.ofNat (r.count status)
  .success (Text.concat [r.table, ": ", count .fromBackend, " via backend, ", count .fromStub,
    " via fallback, ", count .skipped, " skipped (", elapsed, ")"])

/-- Generates a table with some columns. -/
def generateReadable (g : Generator) (force : Bool) (started : Float) (table : Text)
    (columns : List Schema.Column) : Step TableReport := do
  let m ← deriveMetadata g table columns
  Step.say g.console (tableHeader m)
  Step.say g.console (diagnostics g (table ++ " metadata") m.toJson.page)
  let artifacts ← resolveArtifacts g m.className
  let outcomes ← artifacts.mapM (generateArtifact g m force)
  let routeAdded ← registerRoute g m
  let report : TableReport := { table, className := m.className, outcomes, routeAdded }
  let elapsed ← Step.duration ((← Step.readClock g) - started)
  Step.say g.console [tableLine report elapsed]
  return report

/-- The line about a table that cannot be generated. -/
def failureLine (error : Schema.ColumnsError) : Message := .failure ("  " ++ error.message)

/-- Generates a table. -/
def generateTable (g : Generator) (force : Bool) (table : Text) : Step TableReport := do
  let started ← Step.readClock g
  match g.catalog.columns table with
  | .ok columns => generateReadable g force started table columns
  | .error (.breakdown cause) => throw (.catalog cause)
  | .error error =>
    Step.say g.console [failureLine error]
    return { table, error := some error.message }

end Scaffold.Run
