import ReportMigration.Reports.Report
/-!
The four stages of a migration: a report is analysed, its formulas are converted, it is migrated,
and its semantic model is made. Each stage of a report is marked when it has succeeded or failed.
-/
namespace ReportMigration

/-- The stages that a report goes through. -/
inductive StageName where
  | analyzed
  | converted
  | migrated
  | semantic
  deriving DecidableEq

namespace StageName

/-- The status of a report that has passed the stage. -/
def completed : StageName → ReportStatus
  | analyzed => .analysisCompleted
  | converted => .daxCompleted
  | migrated => .migrated
  | semantic => .semanticModelCompleted

/-- The status of a report that has failed at the stage. -/
def failed : StageName → ReportStatus
  | analyzed => .analysisFailed
  | converted => .daxFailed
  | migrated => .migrationFailed
  | semantic => .semanticModelFailed

/-- What a report records of the stage. Only for the analysis is a failure noted as a status of the
    stage; the others note the completed status in either case. -/
def record (s : StageName) (succeeded : Bool) : Stage :=
  ⟨some succeeded, some (if s = .analyzed && !succeeded then s.failed.label else s.completed.label)⟩

end StageName

/-- The stage of a report. -/
def Report.stage (r : Report) : StageName → Stage
  | .analyzed => r.analyzed
  | .converted => r.converted
  | .migrated => r.migrated
  | .semantic => r.semantic

/-- The report with a stage replaced. -/
def Report.setStage (r : Report) (x : Stage) : StageName → Report
  | .analyzed => { r with analyzed := x }
  | .converted => { r with converted := x }
  | .migrated => { r with migrated := x }
  | .semantic => { r with semantic := x }

/-- The report with a stage marked as succeeded or failed. -/
def Report.mark (r : Report) (s : StageName) (succeeded : Bool) : Report :=
  let status : Coded ReportStatus := .known (if succeeded then s.completed else s.failed)
  let x := s.record succeeded
  let old := r.stage s
  if old.done = x.done && old.status = x.status && r.status = some status then r
  else { r.setStage x s with status := some status, updatedAt := .epoch }

/-- Marks a stage of a report, if there is one that can be read. -/
def Database.markStage (db : Database) (report : Option Id) (s : StageName) (succeeded : Bool) :
    Database :=
  match db.report? report with
  | .ok (some r) => db.setReport (r.mark s succeeded)
  | _ => db

end ReportMigration
