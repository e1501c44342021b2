import ReportMigration.Reports.Analysis
/-!
Visuals of reports, and which of them are alike.
-/
namespace ReportMigration

/-- What is given for a visual. -/
structure VisualForm where
  id : Option Id
  key : VisualKey
  createdAt : Option Timestamp := none

/-- The visual that a form makes. -/
def VisualForm.toVisual (form : VisualForm) (id : Id) : Except Fault Visual := do
  let table := "duplicate_analysis"
  let k := form.key
  return {
    id := id
    reportId := ← required table "report_id" k.reportId
    organizationId := ← required table "organization_id" k.organizationId
    workbookName := ← required table "workbook_name" k.workbookName
    dashboardName := ← required table "dashboard_name" k.dashboardName
    visualName := ← required table "visual_name" k.visualName
    visualType := ← required table "visual_type" k.visualType
    visualDatasource := ← required table "visual_datasource" k.visualDatasource
    sheetName := ← required table "sheet_name" k.sheetName
    datasourceType := ← required table "datasource_type" k.datasourceType
    rows := k.rows
    columns := k.columns
    createdAt := form.createdAt
    type := ← required table "type" k.type }

/-- Adds a visual. -/
def addVisual (form : VisualForm) : Op Visual := Op.transaction do
  let id ← match form.id with
    | some id => pure id
    | none => Op.drawId
  let visual ← Op.ofExcept (form.toVisual id)
  Op.write (·.addVisual visual)
  return visual

/-- Visuals of one type, kind and workbook. -/
structure VisualGroup where
  visualType : String
  type : String
  workbookName : String
  projectNames : List String

/-- Whether a column suits what is asked for: a value asks for an equal one, which no empty column has,
    and nothing asks for an empty column. -/
def suits {α : Type} [DecidableEq α] (column : Option α) : Option α → Bool
  | some x => column.any (· = x)
  | none => column.isNone

namespace Database

/-- Whether there is a visual with the given features. -/
def hasVisual (db : Database) (k : VisualKey) : Bool := db.visuals.any fun v =>
  suits (some v.organizationId) k.organizationId && suits (some v.reportId) k.reportId &&
    suits (some v.workbookName) k.workbookName && suits (some v.dashboardName) k.dashboardName &&
    suits (some v.visualName) k.visualName && suits (some v.sheetName) k.sheetName &&
    suits (some v.visualType) k.visualType && suits (some v.visualDatasource) k.visualDatasource &&
    suits (some v.datasourceType) k.datasourceType && suits v.rows k.rows &&
    suits v.columns k.columns && suits (some v.type) k.type

/-- Removes the visuals of a report. -/
def removeVisuals (db : Database) (report : Id) : Database :=
  { db with visuals := db.visuals.filter (·.reportId ≠ report) }

/-- The visuals of an organisation. -/
def visualsIn (db : Database) (organization : Option Id) : List Visual :=
  db.visuals.filter fun v => some v.organizationId = organization

/-- How many types of visuals of a kind an organisation has. -/
def visualTypeCount (db : Database) (organization : Option Id) (kind : String) : Nat :=
  (distinct (((db.visualsIn organization).filter (·.type = kind)).map (·.visualType))).length

/-- The name of the project that a visual belongs to, by way of its report. -/
def projectNameOf? (db : Database) (v : Visual) : Option String :=
  (db.findReport? v.reportId).bind fun r => (db.findProject? r.projectId).map (·.name)

/-- The visuals of an organisation that belong to a project, in groups. -/
def visualGroups (db : Database) (organization : Option Id) : List VisualGroup :=
  let rows := (db.visualsIn organization).filterMap fun v =>
    (db.projectNameOf? v).map fun n => ((v.visualType, v.type, v.workbookName), n)
  (distinct (rows.map (·.1))).map fun k =>
    ⟨k.1, k.2.1, k.2.2, ascending id ((rows.filter (·.1 = k)).map (·.2))⟩

end Database

end ReportMigration
