import ReportMigration.Api.Discovery
/-!
Routes for the reports that a user works on.
-/
namespace ReportMigration.Api

/-- A route about one report, for which the user who asks is noted. -/
def forReport (service : String) (args : List Source) (answer : Value → Except Fault Response) :
    RouteHandler := fun a => Response.shielded do
  let _ ← Op.ofExcept ((a.get "current_user").attr "id")
  Op.ofExcept (answer (← consult service args [] a))

/-- A model of the data of a service that must report success. -/
def successModel (name : String) (reply : Value) : Except Fault Response := do
  Response.checkSuccess reply
  Response.ofModel name (← Response.presentData reply)

/-- A model of the data of a service that must not report an error. -/
def faultlessModel (name : String) (reply : Value) : Except Fault Response := do
  let error ← reply.attr "error"
  if error.isTruthy then Response.turnDown (← reply.attr "status_code") error
  Response.ofModel name (← Response.presentData reply)

/-- Lists reports; a failure is answered with its text. -/
def workspaceReports : RouteHandler := fun a => do
  let listed ← Op.attempt do
    let user := a.get "current_user"
    let _ ← Op.ofExcept (user.attr "id")
    let reply ← Op.call "WorkspaceProcessor.process_get_reports_with_filters"
      [user, a.get "request"]
    Op.ofExcept do
      let _ ← reply.attr "success"
      let _ ← reply.attr "status_code"
      Response.ofReply reply
  match listed with
  | .ok r => return r
  | .error f => return .body (.int 500) (.obj [("data", .null), ("error", .str f.text)])

/-- The model that reports an error. -/
def errorModel (message code : Value) : Response :=
  .model "ErrorResponse" [("success", .bool false), ("message", message), ("code", code)]

/-- Changes how far a report is tested; errors are reported as models. -/
def changeReportStatus : RouteHandler := fun a => do
  let user := a.get "user"
  let _ ← Op.ofExcept (user.attr "id")
  let reply ← Op.call "WorkspaceProcessor.process_update_report_status"
    [a.get "report_id", a.get "status_update", user]
  Op.ofExcept do
    if !(← reply.attr "success").isTruthy then
      let error ← reply.attr "error"
      return errorModel error (← reply.attr "status_code")
    let data ← reply.attr "data"
    if !data.isTruthy then return errorModel (.text "Processor returned no data") (.int 500)
    Response.ofModel "SuccessResponse" data

/-- The report and the user who asks. -/
def reportAndUser : List Source := [.given "report_id", .given "current_user"]

/-- The report, an uploaded file and the user who asks. -/
def reportFileAndUser : List Source := [.given "report_id", .given "file", .given "current_user"]

def workspace : List Route :=
  [⟨.post, "/workspace/reports", "get_workspace_reports", workspaceReports⟩,
    ⟨.patch, "/workspace/reports/\x7breport_id\x7d/status", "update_report_status",
      changeReportStatus⟩,
    ⟨.get, "/workspace/\x7breport_id\x7d", "get_report_details",
      forReport "WorkspaceProcessor.process_get_report_details" reportAndUser
        (successModel "ReportDetailsResponse")⟩,
    ⟨.post, "/workspace/\x7breport_id\x7d/upload/semantic", "upload_semantic_model",
      forReport "WorkspaceProcessor.process_upload_semantic_model" reportFileAndUser
        (successModel "FileUploadResponse")⟩,
    ⟨.post, "/workspace/\x7breport_id\x7d/upload/final-pbi", "upload_final_pbi",
      forReport "WorkspaceProcessor.process_upload_final_pbi" reportFileAndUser
        (successModel "FileUploadResponse")⟩,
    ⟨.get, "/workspace/\x7breport_id\x7d/download/semantic", "download_semantic_model",
      forReport "WorkspaceProcessor.process_download_semantic_model" reportAndUser successful⟩,
    ⟨.get, "/workspace/\x7breport_id\x7d/download/final-pbi", "download_final_pbi",
      forReport "WorkspaceProcessor.process_download_final_pbi" reportAndUser successful⟩,
    ⟨.get, "/workspace/\x7breport_id\x7d/analysis/download", "download_analysis_report",
      forReport "WorkspaceProcessor.process_download_analysis" reportAndUser
        (faultlessModel "AnalysisDownloadResponse")⟩,
    ⟨.get, "/workspace/filter-options/status", "get_workspace_filter_status",
      fixedOptions "WorkspaceProcessor.process_get_filter_status_options"⟩,
    ⟨.delete, "/workspace/delete/\x7brepot_id\x7d", "soft_delete_report",
      forReport "WorkspaceProcessor.process_soft_delete_report" reportAndUser
        (successModel "SuccessResponse")⟩]

end ReportMigration.Api
