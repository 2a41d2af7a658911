import Scaffold.Run.Table

/-!
# Runs

A run generates a batch of tables in the given order. It opens by saying what it is about to do and
whether the backend can be reached, and closes with a summary.

The opening reads the structure file and resolves the directory of the application before the first
message, so that a run with a structure that is no good prints nothing. The probe asks the server
for its models twice: once to see whether it answers, once for the list (`probe`). Its answers bear
on nothing but a line, unless the list is such that it cannot be sorted.

A table that occurs twice is generated twice, and every table has its report, in the order in which
they were given. The summary counts over all reports.

Whether files are replaced is decided once, before the first table: by the argument if there is one,
otherwise by the settings.
-/

namespace Scaffold.Run

open Files (Path)

/-- A word for a truth value. -/
def yesNo (b : Bool) : Text := if b then "yes" else "no"

/-- The panel that opens a run. -/
def startPanel (g : Generator) (base : Path) (tables : List Text) (artifacts : Nat)
    (force : Bool) : Message :=
  .panel
    (Text.join "\n"
      [Text.ofString "[bold bright_cyan]tablegen[/bold bright_cyan]",
       Text.ofString "Tables    : " ++ Text.join ", " tables,
       Text.ofString "Base dir  : " ++ base.toText,
       Text.ofString "Backend   : " ++ g.backend.name,
       Text.ofString "Artifacts : " ++ Text.ofNat artifacts,
       Text.ofString "Force     : " ++ yesNo force])
    "[bold]Generation Start[/bold]" "bright_cyan"

/-- Prints which stubs there are, if that is wanted. -/
def diagnoseStubs (g : Generator) : Step Unit := do
  if g.settings.debug then
    let names ← Step.files (Stub.names g.stubs)
    Step.say g.console (Message.diagnostic ("templates: " ++ g.stubs.toText)
      (if names.isEmpty then "(none -- skeletons only)" else Text.join ", " names))

/-- The line about a run without a server. -/
def disabledLine : Message := .line "  [dim]Generation backend disabled -- using templates[/dim]"

/-- The line about a server that does not answer. -/
def unreachableLine (server : Inference.Server) : Message :=
  .warning (Text.concat ["  Ollama is not reachable at ", server.root,
    " -- artifacts will fall back to templates."])

/-- The line about the model of a server that answers. -/
def modelLine (server : Inference.Server) (model : Text) (found : Bool) : Message :=
  if found then .line (Text.concat ["  [green]+[/green] Ollama online (", model, ")"])
  else .warning (Text.concat ["  Model ", model, " is not pulled on ", server.root])

/-- Prints whether the backend can be asked. -/
def probe (g : Generator) : Step Unit := do
  match g.backend with
  | .server server model =>
    if (← Step.askModels g).isAvailable then
      let found ← Step.orFault .models ((← Step.askModels g).hasModel model)
      Step.say g.console [modelLine server model found]
    else Step.say g.console [unreachableLine server]
  | _ => Step.say g.console [disabledLine]

/-- The row about a table in the summary. -/
def summaryRow (r : TableReport) : List Text :=
  if r.succeeded then
    [r.table, r.className, Text.ofNat (r.count .fromBackend), Text.ofNat (r.count .fromStub),
     Text.ofNat (r.count .skipped), if r.routeAdded then "added" else "present",
     "[green]ok[/green]"]
  else [r.table, "-", "-", "-", "-", "-", "[red]schema error[/red]"]

/-- The table that sums up a run. -/
def summaryTable (r : Report) : Message :=
  .table "Generation Summary"
    ["Table", "Class", "Backend", "Fallback", "Skipped", "Route", "Status"]
    (r.tables.map summaryRow)

/-- The panel that closes a run. -/
def endPanel (g : Generator) (r : Report) (elapsed : Text) : Message :=
  let failed := (r.tables.filter fun t => !t.succeeded).map TableReport.table
  let failedLine : List Text :=
    if failed.isEmpty then [] else [Text.ofString "Failed   : " ++ Text.join ", " failed]
  let headline : Text :=
    if r.succeeded then "[bold green]GENERATION SUCCEEDED[/bold green]"
    else "[bold red]GENERATION FAILED[/bold red]"
  .panel
    (Text.join "\n"
      ([headline, [], Text.ofString "Duration : " ++ elapsed,
        Text.ofString "Written  : " ++ Text.ofNat r.written,
        Text.ofString "Skipped  : " ++ Text.ofNat r.skipped]
        ++ failedLine ++ [Text.ofString "Routes   : " ++ g.settings.routesPath.toText]))
    "[bold]Generation Complete[/bold]" (if r.succeeded then "bold green" else "bold red")

/-- What is printed at the end of a run. -/
def summary (g : Generator) (r : Report) (elapsed : Text) : List Message :=
  [.line [], summaryTable r, .line [], endPanel g r elapsed]

/-- Generates tables one after another. -/
def generateTables (g : Generator) (force : Bool) (tables : List Text) :
    Step (List TableReport) :=
  tables.mapM (generateTable g force)

/-- Runs over tables. Without a word about it, the settings say whether files are replaced. -/
def generate (g : Generator) (tables : List Text) (force : Option Bool) : Step Report := do
  let force := force.getD g.settings.forceOverwrite
  let entries := (← loadStructure g).getD Structure.default
  let base ← Step.files (Files.resolve g.settings.baseDirectory)
  Step.say g.console [startPanel g base tables entries.length force]
  diagnoseStubs g
  probe g
  let started ← Step.readClock g
  let report : Report := ⟨← generateTables g force tables⟩
  let elapsed ← Step.duration ((← Step.readClock g) - started)
  Step.say g.console (summary g report elapsed)
  return report

end Scaffold.Run
