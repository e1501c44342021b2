import ReportMigration.Catalogue.Schema
import ReportMigration.Gateway.Answer
import ReportMigration.Signature
import ReportMigration.Workload.Accounts
import ReportMigration.Workload.Records
import ReportMigration.Workload.Replies
import ReportMigration.Workload.Tallies
import ReportMigration.Workload.Transfers
import ReportMigration.Workload.Troubles
import ReportMigration.Workload.Wording
/-!
All workloads, and how they and samples are asked for by name.
-/
namespace ReportMigration

namespace SampleSize

/-- What the size of a sample can be given as. -/
def signature : Signature where
  title := "_seed"
  hasReceiver := false
  parameters :=
    [⟨"n_users", some (.int 4)⟩, ⟨"n_projects", some (.int 4)⟩, ⟨"n_reports", some (.int 8)⟩]

end SampleSize

namespace Workload

/-- A number of rounds or rows. -/
def countOf : Json → Except Fault Int
  | .int n => .ok n
  | .bool b => .ok (if b then 1 else 0)
  | v => .error <| .wrongType
      ("'" ++ v.typeName ++ "' object cannot be interpreted as an integer")

/-- The size that the given fields ask for. -/
def sizeOf (given : List (String × Json)) : Except Fault SampleSize := do
  let fs ← SampleSize.signature.bind [] given
  let count n := countOf ((Json.getField? n fs).getD .null)
  return ⟨← count "n_users", ← count "n_projects", ← count "n_reports"⟩

/-- The identifiers of a sample and all of its rows, by table. -/
def sampleRows (given : List (String × Json)) : Except Fault Json := do
  let size ← sizeOf given
  let db ← size.database
  let tables := Schema.all.map fun t => (t.name, (db.table t.name).map Json.obj)
  return .obj [("ids", size.toJson),
    ("tables", .obj ((tables.filter fun t => !t.2.isEmpty).map fun t =>
      (t.1, .arr (Answer.sorted t.2))))]

def all : List Workload :=
  [vocabularies, templates, refusals, credentials, settings, questions, userQueries, userWrites,
    writes, projectQueries, reportQueries, routeCalls, furtherRouteCalls, transfers, troubles,
    callers, discoveries]

/-- The workload of a name. -/
def find? (name : String) : Option Workload := all.find? (·.name = name)

/-- What a workload can be given. -/
def signature (w : Workload) : Signature where
  title := "bench_" ++ w.name
  hasReceiver := false
  parameters := [⟨w.parameter, none⟩]

/-- Runs a workload on a sample of the usual size. -/
def answer (w : Workload) (given : List (String × Json)) : Except Fault Json := do
  let fs ← w.signature.bind [] given
  let n ← countOf ((Json.getField? w.parameter fs).getD .null)
  let db ← SampleSize.database {}
  ((w.run n).exec { db := db }).1

end Workload

end ReportMigration
