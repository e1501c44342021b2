import ReportMigration.Api.Response
/-!
Routes for charts.
-/
namespace ReportMigration.Api

/-- A whole number, as far as a value is one. -/
def wholeNumber? : Value → Option Int
  | .int n => some n
  | .bool b => some (if b then 1 else 0)
  | _ => none

/-- The number of entries before a page. -/
def pageOffset (page pageSize : Value) : Except Fault Int :=
  match wholeNumber? page, wholeNumber? pageSize with
  | none, _ => .error <| .wrongType
      ("unsupported operand type(s) for -: '" ++ page.typeName ++ "' and 'int'")
  | some _, none => .error <| .wrongType
      ("unsupported operand type(s) for *: 'int' and '" ++ pageSize.typeName ++ "'")
  | some p, some n => .ok ((p - 1) * n)

/-- The kind of visual that is asked for, in small letters; none if all are. -/
def visualKind (v : Value) : Except Fault Value :=
  if !v.isTruthy then .ok .null
  else match v with
    | .text s => .ok (.text (Text.lower s))
    | _ => .error (.noAttribute v.typeName "lower")

/-- A page of the visuals of an organisation. -/
def visualSummary : RouteHandler := fun a => do
  let request := a.get "request"
  let named ← Op.ofExcept do
    let page ← request.attr "page"
    let offset ← pageOffset page (← request.attr "page_size")
    let visual ← visualKind (← request.attr "visual")
    let limit ← request.attr "page_size"
    return [("visual", visual), ("limit", limit), ("offset", .int offset),
      ("sort_order", ← request.attr "sort_order")]
  let summary ← Op.call "DashboardService.get_visuals_summary" [a.get "user"] named
  Op.ofExcept (Response.ofValue summary)

/-- A chart of what belongs to the user who asks. -/
def chart (service : String) : RouteHandler :=
  relayValue ("DashboardService." ++ service) [.given "user"]

def dashboard : List Route :=
  [⟨.get, "/charts/kpi-cards", "get_kpi_cards", chart "get_kpi_cards"⟩,
    ⟨.get, "/charts/complexity", "get_complexity_chart", chart "get_complexity_chart"⟩,
    ⟨.get, "/charts/priority", "get_priority_chart", chart "get_priority_chart"⟩,
    ⟨.get, "/charts/migration-status", "get_migration_status_chart",
      relayValue "DashboardService.get_migration_status"⟩,
    ⟨.get, "/charts/assigned", "get_assigned_chart", chart "get_assigned_chart"⟩,
    ⟨.get, "/charts/user-roles", "get_user_roles_chart", chart "get_user_roles"⟩,
    ⟨.get, "/charts/report-types", "get_report_types_chart", chart "get_report_types"⟩,
    ⟨.get, "/charts/work-status", "get_work_status_chart", chart "get_work_status"⟩,
    ⟨.get, "/charts/inventory-heatmap", "get_inventory_heatmap",
      chart "get_inventory_heatmap"⟩,
    ⟨.get, "/charts/project-inventory-heatmap", "get_project_inventory_heatmap",
      chart "get_project_inventory_heatmap"⟩,
    ⟨.post, "/charts/visuals", "get_visuals_post", visualSummary⟩,
    ⟨.get, "/charts/visuals/counts", "get_visuals_counts", chart "get_visual_counts"⟩,
    ⟨.get, "/charts/reports-timeline", "get_reports_timeline",
      relayValue "DashboardService.get_reports_timeline"⟩]

end ReportMigration.Api
