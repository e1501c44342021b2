import ReportMigration.Accounts.User
import ReportMigration.Gateway.Answer
import ReportMigration.Projects.Access
import ReportMigration.Reports.Log
import ReportMigration.Reports.Visual
import ReportMigration.Workload.Basic
/-!
A workload on projects and reports: what a user sees in each role, some writes, and the histories of
reports in the log.
-/
namespace ReportMigration.Workload

open Sample

/-- The roles that users look through. -/
def roleNames : List String := [RoleName.admin, .manager, .developer].map Labelled.shown

/-- All that can happen to a report, in order. -/
def history : List (Activity × Event) :=
  [(.analysis, .start), (.analysis, .success none), (.analysis, .success (some "extra")),
    (.analysis, .failure "err"), (.conversion, .start), (.conversion, .success none),
    (.conversion, .success (some "x")), (.conversion, .failure "e"), (.migration, .start),
    (.migration, .success none), (.migration, .success (some "x")), (.migration, .failure "e"),
    (.migration, .progress "50%"), (.semanticModel, .start), (.semanticModel, .success none),
    (.semanticModel, .failure "e")]

/-- The identifier of a report that is entered for its log. -/
def loggedReportId (i : Nat) : Id := .ofNat (9000 + i)

/-- Enters a report and logs its history. -/
def logHistory (i : Nat) : Op (List Json) := do
  let id := loggedReportId i
  let entered : Report := { report (projectId 0) i with id := id }
  Op.change fun db => { db with reports := db.reports ++ [entered] }
  history.forM fun (a, e) => logEvent a e (some id) (some (userId 0))
  return []

/-- How many projects and reports the first user sees in a role. -/
def seenAs (db : Database) (role : String) : List Json :=
  let who : Viewer := ⟨userId 0, some organizationId⟩
  [.int (db.visibleProjects who role).length, .int (db.visibleReports who role).length]

/-- The features of a visual that is entered. -/
def newVisualKey : VisualKey where
  organizationId := some organizationId
  reportId := some (reportId 0)
  workbookName := some "wb"
  dashboardName := some "d"
  visualName := some "v"
  sheetName := some "s"
  visualType := some "Bar"
  visualDatasource := some "ds"
  datasourceType := some "t"
  type := some "native"
  rows := none
  columns := none

/-- One cycle on a sample of three projects with `n` reports: what the first user sees, an edit of
    the first analysis, a change to a user, a visual, and the histories of `n` further reports,
    which are hidden at the end. -/
def writeCycle (n : Int) : Op Json := do
  let sample ← Op.ofExcept (SampleSize.database { projects := 3, reports := n })
  modify fun d => { d with db := sample }
  let seen := roleNames.flatMap (seenAs sample)
  let first ← Op.ofExcept (sample.analysisOf? (some (reportId 0)))
  let about ← Op.ofExcept <| Value.attr "report_id" <| match first with
    | some a => .record [("report_id", .id a.reportId)]
    | none => .null
  discard (editAnalysis (about.text?.map Id.mk) (.ok ⟨some "Medium", some "No", some "High"⟩))
  updateUser (userId 2) { firstName := some (some "A"), lastName := some (some "B") } (userId 0)
  discard (addVisual { id := none, key := newVisualKey })
  let known := (← Op.db).hasVisual newVisualKey
  addLog (some (reportId 0)) (some "info") (some "m") (some (userId 0))
  discard (rounds n logHistory)
  Op.change (·.hideLogs ((List.range n.toNat).map loggedReportId))
  let db ← Op.db
  let logs ← Op.ofExcept (db.logsOf (some (loggedReportId 0)) (some 100))
  return .arr (seen ++ [.obj [("expired", .str "User")], .bool known, .int db.logs.length,
    Answer.rows Log.toColumns logs])

def writes : Workload where
  name := "model_write_cycle"
  parameter := "n_records"
  run := writeCycle

end ReportMigration.Workload
