import ReportMigration.Api.Response
/-!
Routes for what is found on servers, and for the options that listings are filtered by.
-/
namespace ReportMigration.Api

/-- The page that is asked for, after other arguments. -/
def pageAfter (args : List Source) : List Source := args ++ [.given "page", .given "page_size"]

/-- The arguments of a listing by name, with the page that is asked for. -/
def listed (names : List String) : List (String × Source) :=
  (names ++ ["page", "page_size"]).map fun n => (n, .given n)

/-- The reports of a listing that were not analysed yet. -/
def unanalyzed (reports : Value) : Except Fault (List Value) := do
  let items ← reports.elements
  items.filterMapM fun r => do
    if (← r.item "is_analyzed").isTruthy then return none
    else return some (← r.item "id")

/-- Lists reports; those that were not analysed yet are analysed after the answer. -/
def allReports : RouteHandler := fun a => do
  let request := a.get "request"
  let listing ← Op.call "DiscoverProcessor.process_get_all_reports" [a.get "user", request]
  let missing ← Op.ofExcept do unanalyzed (← listing.item "data")
  if !missing.isEmpty then
    let user ← Op.ofExcept ((a.get "user").attr "id")
    Op.later { name := "DiscoverService.run_analysis_sync", args := [.list missing, user] }
  Op.ofExcept do
    let data ← listing.item "data"
    let error ← listing.item "error"
    let total ← listing.item "total"
    let fetched ← listing.item "total_files_fetched"
    let page ← request.attr "page"
    let pageSize ← request.attr "page_size"
    let pages ← listing.item "total_pages"
    Response.send (← listing.item "status_code")
      (.map [("data", data), ("error", error), ("total", total),
        ("total_files_fetched", fetched), ("page", page), ("page_size", pageSize),
        ("total_pages", pages)])

def discovery : List Route :=
  [⟨.post, "/discover/server", "discover_server",
      relay "DiscoverServerService.execute"
        (pageAfter [.method "DiscoverServerService._discover_server", .given "request"])⟩,
    ⟨.post, "/discover/servers", "get_all_servers",
      relay "DiscoverProcessor.process_get_all_servers"
        (pageAfter [.part "user" "organization_id"])⟩,
    ⟨.post, "/discover/sites", "get_all_sites",
      relay "DiscoverProcessor.process_get_all_sites" (pageAfter [.given "server_id"])⟩,
    ⟨.post, "/discover/managers", "get_all_managers",
      relay "DiscoverProcessor.process_get_all_managers" [] (listed ["organization_id"])⟩,
    ⟨.post, "/discover/developers", "get_all_developers",
      relay "DiscoverProcessor.process_get_all_developers" []
        (listed ["organization_id", "manager_id"])⟩,
    ⟨.post, "/discover/root-projects", "get_all_root_projects",
      relay "DiscoverProcessor.process_get_all_root_projects" []
        (listed [] ++ [("user", .given "user")])⟩,
    ⟨.patch, "/discover/project/assign", "update_project_assigned_to",
      relay "DiscoverProcessor.process_update_assign_to" [.given "project_id", .given "user_id"]⟩,
    ⟨.post, "/discover/projects/by-site", "get_all_projects_by_site",
      relay "DiscoverProcessor.process_get_all_projects_by_site" [.given "site_id"]⟩,
    ⟨.post, "/discover/project/by-parent", "get_projects_by_parent",
      relay "DiscoverProcessor.process_get_projects_by_parent" [.given "project_id"]⟩,
    ⟨.post, "/discover/developers/by-org", "get_all_developers_org_id",
      relay "DiscoverProcessor.process_get_all_developers_by_orgid" []
        (listed ["organization_id"])⟩,
    ⟨.post, "/discover/projects/by-parent", "get_projects_by_parent_id",
      relay "DiscoverProcessor.process_get_projects_by_parent_id" [.given "project_id"]⟩,
    ⟨.post, "/discover/projects/search", "get_report_details_by_search",
      relay "DiscoverProcessor.process_get_projects_by_search" []
        [("keyword", .given "keyword"), ("org_id", .partText "user" "organization_id"),
          ("user_id", .partText "user" "id"), ("role_name", .part "user" "role_name")]⟩,
    ⟨.post, "/discover/reports/all", "get_all_reports", allReports⟩,
    ⟨.patch, "/discover/update", "update_report_analysis",
      relay "DiscoverProcessor.process_update_report" [.given "report_id", .given "payload"]⟩,
    ⟨.post, "/discover/status", "get_lookup_options",
      relay "DiscoverProcessor.process_get_lookup_options"⟩,
    ⟨.get, "/discover/filter-options/priority", "get_discover_filter_priority",
      relay "DiscoverProcessor.process_get_filter_priority_options"⟩,
    ⟨.get, "/duplicate-analysis", "get_org_report_duplicates",
      relay "DuplicateAnalysisProcessor.process_get_org_report_duplicates"
        (pageAfter [.part "user" "organization_id"])⟩,
    ⟨.post, "/stale-reports", "get_stale_reports",
      relay "StaleProcessor.process_get_stale_reports"
        [.given "user", .part "request" "page", .part "request" "page_size",
          .part "request" "days"]⟩,
    ⟨.post, "/stale-update", "update_stale_reports",
      relay "StaleUpdateProcessor.process_stale_update" [.part "user" "organization_id"]⟩]

/-! ## Filters -/

/-- What a listing shows: the work of a user, or everything that was found. -/
inductive ListingContext where
  | workspace
  | discover
  deriving DecidableEq

/-- The service that knows what a listing shows. -/
def ListingContext.service : ListingContext → String
  | workspace => "WorkspaceProcessor"
  | discover => "DiscoverProcessor"

/-- The listing that a request is about. -/
def ListingContext.ofValue : Value → Except Fault ListingContext
  | .text "workspace" => .ok workspace
  | .text "discover" => .ok discover
  | _ => .error (.http 400 (.str "Invalid context. Must be 'workspace' or 'discover'"))

/-- Passes on the reply of a service that must report success. -/
def successful (reply : Value) : Except Fault Response := do
  Response.checkSuccess reply
  Response.ofReply reply

/-- The options of a listing for one of its columns. -/
def filterOptions (method : String) : RouteHandler := fun a => Response.shielded do
  let user := a.get "current_user"
  let _ ← Op.ofExcept (user.attr "id")
  let context ← Op.ofExcept (ListingContext.ofValue (a.get "context"))
  let reply ← Op.call (context.service ++ "." ++ method) [user]
  Op.ofExcept (successful reply)

/-- The options that are the same for every listing. -/
def fixedOptions (service : String) : RouteHandler := fun a => Response.shielded do
  let _ ← Op.ofExcept ((a.get "current_user").attr "id")
  Op.ofExcept (successful (← Op.call service))

def filters : List Route :=
  [⟨.get, "/filter-options/sites", "get_filter_sites", filterOptions "process_get_filter_sites"⟩,
    ⟨.get, "/filter-options/projects", "get_filter_projects",
      filterOptions "process_get_filter_projects"⟩,
    ⟨.get, "/filter-options/complexity", "get_filter_complexity",
      fixedOptions "WorkspaceProcessor.process_get_filter_complexity_options"⟩]

end ReportMigration.Api
