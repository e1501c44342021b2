import ReportMigration.Accounts.Caller
import ReportMigration.Api.All
import ReportMigration.Completion
import ReportMigration.Servers.SiteDiscovery
import ReportMigration.Workload.Basic
/-!
Workloads on what goes wrong: routes whose services refuse, answer with nothing or fail, callers who
are not known, and discoveries.
-/
namespace ReportMigration.Workload

open Sample

/-- The service that routes call, from here on. -/
def served (o : Outcome) : Op Unit := modify fun d => { d with script := [("*", o)] }

/-- The text of a response. -/
def responseText : Response → String
  | .body .. => rowText "starlette.responses.JSONResponse"
  | .model _ fields => (Json.obj (Value.fieldsToJson fields)).display
  | .plain v => v.display

/-- The user whom requests come from. -/
def requester : Value :=
  .record [("id", .id (userId 0)), ("email", .text (user 0).email),
    ("role_id", .id (roleId .admin)), ("organization_id", .id organizationId)]

/-- The arguments that routes are asked with. -/
def routeArguments (context : String) : Arguments where
  fields := [("user", requester), ("current_user", requester), ("report_id", .id (reportId 0)),
    ("context", .text context), ("request", .record [("report_ids", .list [.id (reportId 0)])]),
    ("status_update", .record []), ("file", .file "f.zip" (.text ""))]

/-- The beginning of what a route answers. -/
def asked (group operation : String) (context : String := "workspace") : Op Json := tried 20 do
  match Api.route? group operation with
  | some r => return responseText (← r.answer (routeArguments context))
  | none => return nothing

/-! ## Routes -/

/-- A reply that refuses. -/
def refusing : Outcome := .value <| .record
  [("success", .bool false), ("data", .null), ("error", .text "boom"), ("status_code", .int 400)]

/-- A reply without data and status. -/
def blank : Outcome := .value <| .record
  [("success", .bool true), ("data", .null), ("error", .null), ("status_code", .null)]

/-- A reply to which only a part of the work succeeded. -/
def partly : Outcome := .value (.reply .null .null (.int 207))

/-- A reply that reports an error. -/
def failing : Outcome := .value (.reply .null (.text "boom") (.int 500))

/-- A service that fails. -/
def broken : Outcome := .raise (.failure .runtime "boom")

/-- The routes for one report or for the options of a user. -/
def reportRoutes : List String :=
  ["get_report_details", "upload_semantic_model", "upload_final_pbi", "download_semantic_model",
    "download_final_pbi", "download_analysis_report", "get_workspace_filter_status",
    "soft_delete_report"]

/-- The routes for filters. -/
def filterRoutes : List String :=
  ["get_filter_sites", "get_filter_projects", "get_filter_complexity"]

/-- Some operations of a group with a service. -/
def askedAll (group : String) (operations : List String) (o : Outcome) : Op (List Json) := do
  served o
  operations.mapM fun op => asked group op

/-- The routes for reports under each trouble; the change of a status has no answer to a failure. -/
def reportTroubles : Op (List Json) := do
  let status := "update_report_status"
  return (← askedAll "workspace" (reportRoutes ++ [status]) refusing) ++
    (← askedAll "workspace" (reportRoutes ++ [status]) blank) ++
    (← askedAll "workspace" reportRoutes broken)

/-- The routes that answer every failure with a body. -/
def answeredTroubles : Op (List Json) := do
  let analysis := ["generate_report_analysis"]
  let migration := ["migrate_report_to_powerbi"]
  return (← askedAll "workspace" ["get_workspace_reports"] broken) ++
    (← askedAll "analysis" analysis partly) ++ (← askedAll "analysis" analysis failing) ++
    (← askedAll "analysis" analysis broken) ++ (← askedAll "migrate" migration failing) ++
    (← askedAll "migrate" migration (.raise (.http 404 (.str "gone")))) ++
    (← askedAll "migrate" migration broken)

/-- The routes for filters under each trouble, and the table of servers that is no more. -/
def filterTroubles : Op (List Json) := do
  let refused ← askedAll "common_filters" filterRoutes refusing
  let failed ← askedAll "common_filters" filterRoutes broken
  let nowhere ← asked "common_filters" "get_filter_sites" "elsewhere"
  return refused ++ failed ++ [nowhere, ← asked "server_details" "get_server_details"]

/-! ## Callers -/

/-- The services that read the headers of a request from an address. -/
def headersOf (email : String) : List (String × Outcome) :=
  [("decode_base", .value (.text email)),
    ("decode_secure_jwt", .value (.map [("sub", .text
      (Json.compact (.obj [("role", .str "Admin"), ("email", .str email)])))]))]

/-- Who calls with an address, by both ways to find out. -/
def callersWith (email : String) : Op (List Json) := do
  modify fun d => { d with script := headersOf email }
  let header : Value := .text "Bearer t"
  [Caller.current, Caller.recent].mapM fun find => tried 20 do
    discard (find header (.text "e"))
    return rowText "users.User"

/-- The text of an administrator who passes the check for one. -/
def adminText : Op Json := tried 20 do
  Op.ofExcept (Caller.checkAdmin (← Op.db) (some (roleId .admin)))
  return "namespace(role_id=" ++ idText (roleId .admin) ++ ")"

/-- A question to a model that fails. -/
def unanswered (kind : FailureKind) : Op Json := tried 20 do
  served (.raise (.failure kind "boom"))
  let q : Question := { model := .null, system := .text "s", user := .text "u", form := .text "text" }
  return (← q.ask).display

/-! ## Flows and discoveries -/

/-- A flow that is extracted, one that is no archive, and a package of nothing. -/
def flowTroubles : Op (List Json) := do
  served (.value .null)
  let extracted (c : Content) : Op Json := tried 20 do
    return (← Flow.extract "f.tflx" c).display
  return [← extracted (.archive [("flow", "\x7b\x7d")]), ← extracted (.text "no archive"),
    ← tried 20 do return (← Flow.package .null).display]

/-- The discovery of the sample's server. -/
def sampleDiscovery : Op SiteDiscovery :=
  SiteDiscovery.make [("server_url", .str "http://s"), ("server_id", .str "1"), ("server_type_id", .str "2")]

/-- A stored list, an upload that never succeeds with the number of its waits, an addition to the
    list, and a discovery that fails. -/
def discoveryRound : Op (List Json) := do
  served (.value .null)
  let s ← sampleDiscovery
  Op.storeObject s.cloudPath (.text "[\x7b\"a\": 1\x7d]")
  let list ← tried 20 do return (Json.arr (← s.stored s.cloudPath s.localPath)).display
  let before := (← get).sleeps.length
  let uploaded ← tried 20 do
    return flagText (← s.uploadAgain "missing.json" s.cloudPath 0 SiteDiscovery.waits)
  let waits := (← get).sleeps.length - before
  let added ← tried 20 do
    s.append (.list [.int 1]) s.cloudPath s.localPath
    return nothing
  let run ← tried 20 do
    s.run
    return nothing
  return [list, uploaded, .str (toString waits), added, run]

/-! ## The workloads -/

/-- One round of all troubles. -/
def troubleRound : Op (List Json) := do
  let routes := (← reportTroubles) ++ (← answeredTroubles) ++ (← filterTroubles)
  let known ← callersWith (user 0).email
  let unknown ← callersWith "nobody@ex.com"
  let fine ← tried 20 (Op.ofExcept (guarded (.ok "ok")))
  let admin ← adminText
  let models ← [FailureKind.modelConnection, .modelAuthentication].mapM unanswered
  return routes ++ known ++ unknown ++ [fine, admin] ++ models ++ (← flowTroubles) ++
    (← discoveryRound)

/-- Rounds of all that goes wrong. -/
def troubles : Workload where
  name := "error_branches"
  parameter := "n_calls"
  run n := do return .arr (← rounds n fun _ => troubleRound)

/-- Rounds of requests from a known caller. -/
def callers : Workload where
  name := "dependencies_auth"
  parameter := "n_calls"
  run n := do
    return .arr (← rounds n fun _ => do return (← callersWith (user 0).email) ++ [← adminText])

/-- Rounds of discoveries. -/
def discoveries : Workload where
  name := "task_service"
  parameter := "n_cycles"
  run n := do return .arr (← rounds n fun _ => discoveryRound)

end ReportMigration.Workload
