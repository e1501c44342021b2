import ReportMigration.Api.Response
/-!
Routes for the conversion of reports: analysis, calculations, the semantic model and migration.
-/
namespace ReportMigration.Api

/-- The body that tells how a conversion went. -/
def progress (status : String) (message data : Value) : Value :=
  .map [("status", .text status), ("message", message), ("data", data)]

/-- The answer to a conversion that failed. -/
def failedProgress (status : Json) (message : String) : Response :=
  .body status (.obj [("status", .str "Failed"), ("message", .str message), ("data", .null)])

/-- Whether a status is a certain number. -/
def hasStatus (n : Int) (status : Value) : Bool := status.toJson.isWorth n

/-- How an analysis went, by the status of its reply, with what is said if the reply says
    nothing. -/
def analysisOutcome (status : Value) : String × String :=
  if hasStatus 200 status then ("Success", "Analysis completed successfully")
  else if hasStatus 207 status then ("Partial Success", "Some reports completed successfully")
  else ("Failed", "Analysis failed")

/-- Analyses reports. -/
def analyzeReports : RouteHandler := fun a => do
  let user := a.get "user"
  let reports ← Op.ofExcept ((a.get "request").attr "report_ids")
  let _ ← Op.ofExcept reports.size
  let _ ← Op.ofExcept (user.attr "email")
  let analyzed ← Op.attempt do
    let reply ← Op.call "AnalysisProcessor.analyse_processor" [reports, user]
    Op.ofExcept do
      let status ← reply.attr "status_code"
      let (outcome, message) := analysisOutcome status
      let error ← reply.attr "error"
      Response.send status (progress outcome (error.orElse (.text message)) (← reply.attr "data"))
  match analyzed with
  | .ok r => return r
  | .error (.refused r) => throw (.refused r)
  | .error f => return failedProgress (.int 500) ("Analysis failed: " ++ f.text)

/-- Migrates a report. -/
def migrateReport : RouteHandler := fun a => do
  let user := a.get "user"
  let _ ← Op.ofExcept (user.attr "email")
  let migrated ← Op.attempt do
    let reply ← Op.call "MigrateProcessor.migrate_single_report" [a.get "report_id", user]
    Op.ofExcept do
      let status ← reply.attr "status_code"
      if hasStatus 200 status then
        Response.send status
          (progress "Success" (.text "Migration completed successfully") (← reply.attr "data"))
      else
        let error ← reply.attr "error"
        Response.send status
          (progress "Failed" (error.orElse (.text "Migration failed")) (← reply.attr "data"))
  match migrated with
  | .ok r => return r
  | .error (.refused r) => return failedProgress r.status r.detail.display
  | .error f => return failedProgress (.int 500) ("Migration failed: " ++ f.text)

/-- Converts the calculations of a report. -/
def convertCalculations : RouteHandler := fun a => do
  let reply ← Op.call "DaxProcessor.convert_dax" [a.get "report_id", a.get "user"]
  Op.ofExcept do
    let status ← reply.attr "status_code"
    let error ← reply.attr "error"
    Response.send status
      (.map [("message", error.orElse (.text "Success")), ("data", ← reply.attr "data")])

/-- Makes the semantic model of a report. -/
def makeSemanticModel : RouteHandler := fun a => do
  let reply ← Op.call "SemanticProcessor.semantic_processor" [a.get "report_id", a.get "user"]
  Op.ofExcept do
    match ← reply.attr "data" with
    | .map fs =>
      let message := (Value.field? "message" fs).getD (.text "Success")
      return .plain (.obj [("message", message.toJson), ("data", (Value.map fs).toJson)])
    | v => throw (.noAttribute v.typeName "get")

def analysis : List Route :=
  [⟨.post, "/generate_report", "generate_report_analysis", analyzeReports⟩]

def calculations : List Route :=
  [⟨.post, "/calc-dax/\x7breport_id\x7d", "calc_dax_api", convertCalculations⟩]

def migration : List Route :=
  [⟨.post, "/tableau-to-powerbi/\x7breport_id\x7d", "migrate_report_to_powerbi", migrateReport⟩]

def semanticModel : List Route :=
  [⟨.post, "/semantic_model/\x7breport_id\x7d", "generate_semantic_model", makeSemanticModel⟩]

end ReportMigration.Api
