import ReportMigration.Gateway.Projects
import ReportMigration.Reports.Log
import ReportMigration.Reports.Stage
/-!
Requests about reports, their stages, analyses, logs and visuals, and about the removal of servers.
-/
namespace ReportMigration.Gateway

open Answer

/-- The time that an argument gives, as such or as a text. -/
def time? : Value → Option Timestamp
  | .time t => some t
  | .text s => if s.isEmpty then none else Time.readZulu? s
  | _ => none

def newReport : Handler := fun a => inSession a do
  let report ← addReport
    { id := a.id? "id", name := a.text? "name", reportId := a.id? "report_id",
      projectId := a.id? "project_id", reportType := a.text? "report_type",
      viewCount := a.int? "view_count", createdBy := a.id? "created_by",
      updatedBy := a.id? "updated_by", createdAt := time? (a.get "created_at"),
      updatedAt := time? (a.get "updated_at"),
      sourceCreatedAt := time? (a.get "tableau_report_createdat"),
      sourceUpdatedAt := time? (a.get "tableau_report_updatedat") }
  return row report.toColumns

def lastViewed : Handler := fun a => do return .int (← updateLastViewed (a.items "updates"))

def userCounts : Handler := fun a => do return .int (← updateUserCounts (a.items "updates"))

/-- The fault of a query on a session that was never opened. -/
def unopened : Fault := .noAttribute "_GeneratorContextManager" "query"

def dropReportsOf : Handler := fun a => do
  if (a.get "project_ids").isTruthy then throw unopened
  return .null

def reportIds : Handler := fun a => view fun db => idSet (db.reportIdsOf (a.ids "project_ids"))

def reportPath : Handler := fun a => view fun db =>
  .str (db.reportPath (a.id "project_id") (a.text "report_name"))

def rootName : Handler := fun a => view fun db => .str (db.rootName (a.id "project_id"))

/-- Marks a stage of a report as succeeded or failed. -/
def mark (s : StageName) : Handler := fun a => do
  let succeeded := !a.has "status" || match a.get "status" with
    | .member "OperationStatus" "SUCCESS" _ => true
    | _ => false
  Op.change (·.markStage (a.id? "report_id") s succeeded)
  return .null

def dropReport : Handler := fun a => do
  let time := if (a.get "background_tasks").isTruthy then ArchiveTime.later else .now
  let found ← removeReport (a.id? "report_id") (a.text "org_name") time
  return .obj
    [("message", .str (if found then "Report deleted successfully" else "Report not found")),
      ("report_id", (a.get "report_id").toJson)]

def reportName : Handler := fun a => do
  return row? Report.toColumns (← renameReport (a.id? "report_id") (a.text? "new_name"))

def reportNameTaken : Handler := fun a => view fun db =>
  .bool (db.hasReportNamed (a.text? "name") (a.id? "project_id"))

def report : Handler := fun a => ask fun db => do
  return row? Report.toColumns (← db.report? (a.id? "report_id"))

/-- A report with its project, site, assignee and analysis. -/
def contextColumns (c : Database.ReportContext) : Columns :=
  let count (f : Analysis → Option Int) : Json := .ofInt? (c.analysis.bind f)
  [("report_id", .str c.report.id.text), ("report_name", .str c.report.name),
    ("view_count", .ofInt? c.report.viewCount), ("is_analyzed", .ofBool? c.report.analyzed.done),
    ("is_upload", .bool c.project.isUpload), ("project_name", .str c.project.name),
    ("site_name", .str c.siteName), ("assigned_user", .ofText? c.assignedUser),
    ("complexity_type", .ofText? ((c.analysis.bind (·.complexity)).map Coded.shown)),
    ("dashboard_count", count (·.dashboardCount)), ("worksheet_count", count (·.worksheetCount)),
    ("datasource_count", count (·.datasourceCount)),
    ("calculation_count", count (·.calculationCount))]

def reportContexts : Handler := fun a => ask fun db => do
  return rowSet contextColumns (← db.reportContexts (a.ids "parent_ids"))

/-! ## Analyses -/

def counts : Handler := fun a => do
  let count k := if a.has k then a.int? k else some 0
  return .bool (← updateCounts (a.id? "report_id")
    { datasources := count "num_datasources", worksheets := count "num_worksheets",
      dashboards := count "num_dashboards", calculations := count "num_calculated_fields",
      nativeVisuals := count "num_native_visuals", customVisuals := count "num_custom_visuals",
      parameters := count "num_parameters", filters := count "num_filters" }
    (a.text? "complexity_type"))

def migration : Handler := fun a => do
  match a.text? "migration_status" with
  | some s => return .bool (← setMigration (a.id? "report_id") s)
  | none => throw (.noAttribute (a.get "migration_status").typeName "strip")

def analysis : Handler := fun a => ask fun db => do
  return row? Analysis.toColumns (← db.analysisOf? (a.id? "report_id"))

/-- What an edit sets. -/
def edit (v : Value) : Except Fault AnalysisEdit := do
  return ⟨(← v.attr "complexity_type").text?, (← v.attr "migration").text?,
    (← v.attr "priority").text?⟩

def analysisEdit : Handler := fun a => do
  let r ← Op.ofExcept ((a.get "report").attr "report_id")
  return row (← editAnalysis (r.text?.map Id.mk) (edit (a.get "payload"))).toColumns

def options : Handler := fun _ => ask fun db => do
  let inOrder := ascending fun (s : String) => s
  return .obj
    [("complexity_options", texts (inOrder ((← db.complexities).map Labelled.shown))),
      ("priority_options", texts (inOrder db.priorities))]

def hideAnalyses : Handler := fun a => do
  Op.change (·.hideAnalyses (a.ids "report_ids"))
  return .null

/-! ## Logs -/

/-- A row that was written and not read back. -/
def expired : Json := .obj [("expired", .str "ReportLog")]

def newLog : Handler := fun a => do
  log (a.id? "report_id") (a.get "status").toJson (a.text? "message") (a.id? "created_by")
  return expired

def newPlainLog : Handler := fun a => do
  addLog (a.id? "report_id") (a.text? "status") (a.text? "message") (a.id? "created_by")
  return .null

def logs : Handler := fun a => do
  if a.session.isNone then throw unopened
  let limit := if a.has "limit" then a.int? "limit" else some 100
  ask fun db => do return rows Log.toColumns (← db.logsOf (a.id? "report_id") limit)

/-- Logs an event of an activity. -/
def logged (activity : Activity) (e : Event) : Handler := fun a => do
  logEvent activity e (a.id? "report_id") (a.id? "user_id")
  return expired

def started (activity : Activity) : Handler := logged activity .start

def completed (activity : Activity) : Handler := fun a =>
  logged activity
    (.success (if a.has "details" then some (a.get "details").display else none)) a

def failed (activity : Activity) : Handler := fun a =>
  logged activity (.failure (a.get "error_message").display) a

def progressed (activity : Activity) : Handler := fun a =>
  logged activity (.progress (a.get "progress_message").display) a

def hideLogs : Handler := fun a => do
  Op.change (·.hideLogs (a.ids "report_ids"))
  return .null

/-! ## Visuals -/

/-- The features of a visual. -/
def visualKey (a : Arguments) : VisualKey where
  organizationId := a.id? "organization_id"
  reportId := a.id? "report_id"
  workbookName := a.text? "workbook_name"
  dashboardName := a.text? "dashboard_name"
  visualName := a.text? "visual_name"
  sheetName := a.text? "sheet_name"
  visualType := a.text? "visual_type"
  visualDatasource := a.text? "visual_datasource"
  datasourceType := a.text? "datasource_type"
  type := a.text? "type"
  rows := a.text? "rows"
  columns := a.text? "columns"

def visualKnown : Handler := fun a => view fun db => .bool (db.hasVisual (visualKey a))

def newVisual : Handler := fun a => do
  let v ← addVisual
    { id := a.id? "id", key := visualKey a, createdAt := time? (a.get "created_at") }
  return row v.toColumns

def dropVisuals : Handler := fun a => do
  match a.id? "report_id" with
  | some r => Op.change (·.removeVisuals r)
  | none => pure ()
  return .null

def visualCounts : Handler := fun a => view fun db =>
  .obj [("native", .int (db.visualTypeCount (a.id? "org_id") "native")),
    ("custom", .int (db.visualTypeCount (a.id? "org_id") "custom"))]

/-- A group of visuals. -/
def groupColumns (g : VisualGroup) : Columns :=
  [("visual_type", .str g.visualType), ("type", .str g.type),
    ("workbook_name", .str g.workbookName), ("project_names", texts g.projectNames),
    ("workbook_names", texts (g.projectNames.map fun _ => g.workbookName))]

def visualGroups : Handler := fun a => view fun db =>
  rowSet groupColumns (db.visualGroups (a.id? "org_id"))

def dropServer : Handler := fun a => do
  removeServer (a.id "server_id") (a.text "org_name")
  return .null

end ReportMigration.Gateway
