import Scaffold.Artifact.Basic

/-!
# Reports

What a run says about itself: for every table what became of each of its artifacts, and by which
stages it came there.

The status of an artifact and its stages tell the same story in two degrees of detail: from the
stages follows the status, and which of two stages stands at a fork follows from what the backend
said and from whether the file was written. A report of a table without an error is one that has
succeeded; there is no third kind, since a table is generated as a whole or reported as a whole.

The numbers of a run are sums over its tables: an artifact that occurs in two reports counts twice.

The stages have wordings as well, which no message shows and which are left out here.
-/

namespace Scaffold.Run

/-- A stage on the way of an artifact to its file. -/
inductive Stage where
  | requested
  | prompted
  | answered
  | unanswered
  | normalizing
  | accepted
  | rejected
  | rendered
  | writing
  | written
  | skipped
  deriving DecidableEq, Inhabited

/-- What became of an artifact. -/
inductive Status where
  /-- Its file holds what the backend wrote. -/
  | fromBackend
  /-- Its file holds a filled stub. -/
  | fromStub
  /-- Something stood at its path already. -/
  | skipped
  deriving DecidableEq, Inhabited

namespace Status

/-- The wording of a status. -/
def name : Status → Text
  | fromBackend => "generated via backend"
  | fromStub => "generated via fallback"
  | skipped => "skipped (exists)"

/-- The colour of a status. -/
def style : Status → Text
  | fromBackend => "green"
  | fromStub => "cyan"
  | skipped => "yellow"

end Status

/-- What became of an artifact, and how. -/
structure Outcome where
  artifact : Artifact
  status : Status
  stages : List Stage
  deriving Inhabited

/-- What became of a table. -/
structure TableReport where
  table : Text
  className : Text := []
  outcomes : List Outcome := []
  routeAdded : Bool := false
  /-- Why the table was not generated. -/
  error : Option Text := none
  deriving Inhabited

namespace TableReport

/-- Whether the table was generated. -/
def succeeded (r : TableReport) : Bool := r.error.isNone

/-- How many artifacts have a status. -/
def count (r : TableReport) (status : Status) : Nat :=
  r.outcomes.countP (·.status = status)

end TableReport

/-- What became of a run. -/
structure Report where
  tables : List TableReport
  deriving Inhabited

namespace Report

/-- Whether every table was generated. -/
def succeeded (r : Report) : Bool := r.tables.all TableReport.succeeded

/-- How many artifacts were written. -/
def written (r : Report) : Nat :=
  r.tables.foldr (fun t n => t.count .fromBackend + t.count .fromStub + n) 0

/-- How many artifacts were skipped. -/
def skipped (r : Report) : Nat := r.tables.foldr (fun t n => t.count .skipped + n) 0

end Report

end Scaffold.Run
