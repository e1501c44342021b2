import ReportMigration.Api.Response
/-!
Routes for servers, their projects and reports, and for data sources.
-/
namespace ReportMigration.Api

/-- The identifier of the user who makes a request. -/
def userId (a : Arguments) : Except Fault Value := do
  match ← (a.get "user").attr "id" with
  | .id i => return .id i
  | v => return .id (← (Value.text v.display).toId)

/-- The arguments that say which page is asked for. -/
def pageArguments (a : Arguments) : List (String × Value) :=
  [("page", a.get "page"), ("page_size", a.get "page_size")]

def rootProjectsOfUser : RouteHandler := fun a => do
  let user ← Op.ofExcept (userId a)
  let reply ← Op.call "ServerProcessor.process_get_root_projects" [user] (pageArguments a)
  Op.ofExcept (Response.ofReply reply)

def projectsOfUserByParent : RouteHandler := fun a => do
  let user ← Op.ofExcept (userId a)
  let reply ← Op.call "ServerProcessor.process_get_projects_by_parent"
    [a.get "parent_id", user] (pageArguments a)
  Op.ofExcept (Response.ofReply reply)

/-- The page that is asked for, passed on by name. -/
def namedPage : List (String × Source) := [("page", .given "page"), ("page_size", .given "page_size")]

def servers : List Route :=
  [⟨.post, "/server", "add_server",
      relay "ServerProcessor.process_add_server"
        [.given "request", .given "user", .given "background_tasks"]⟩,
    ⟨.post, "/add-server", "add_tableau_server",
      relay "ServerProcessor.process_add_tableau_server"
        [.given "request", .given "user", .given "background_tasks"]⟩,
    ⟨.delete, "/server", "delete_server",
      relay "ServerProcessor.process_delete_server" [.given "server_id"]⟩,
    ⟨.put, "/server", "update_server",
      relay "ServerProcessor.process_update_server" [.given "request", .given "user"]⟩,
    ⟨.get, "/server", "get_server",
      relay "ServerProcessor.process_get_server" [.given "server_id"]⟩,
    ⟨.get, "/servers", "get_servers", relay "ServerProcessor.process_get_servers" [] namedPage⟩,
    ⟨.get, "/list-servers", "get_org_servers",
      relay "ServerProcessor.process_get_org_servers" [.part "user" "organization_id"] namedPage⟩,
    ⟨.get, "/get-root-projects", "get_root_projects", rootProjectsOfUser⟩,
    ⟨.get, "/get-projects-by-parent", "get_projects_by_parent", projectsOfUserByParent⟩,
    ⟨.post, "/create-project", "create_project",
      relay "ServerProcessor.process_create_project" [.given "request", .given "user"]⟩,
    ⟨.patch, "/update_status", "update_server_status",
      relay "ServerProcessor.process_update_server_status" [.given "request"]⟩,
    ⟨.patch, "/update-status", "update_tableau_server_status",
      relay "ServerProcessor.update_tableau_server_status" [.given "request"]⟩,
    ⟨.patch, "/delete-server", "soft_delete_tableau_server",
      relay "ServerProcessor.process_soft_delete_tableau_server"
        [.given "request", .given "user"]⟩,
    ⟨.patch, "/update-project-name", "update_project_name",
      relay "ServerProcessor.process_update_project_name" [.given "request", .given "user"]⟩,
    ⟨.patch, "/delete-project", "delete_project",
      relay "ServerProcessor.process_delete_project"
        [.part "request" "project_id", .given "user"]⟩,
    ⟨.patch, "/delete-report", "delete_report",
      relay "ServerProcessor.process_delete_report" [.part "request" "report_id", .given "user"]⟩,
    ⟨.patch, "/edit-report-name", "edit_report_name",
      relay "ServerProcessor.process_edit_report_name"
        [.part "request" "report_id", .part "request" "new_name", .given "user"]⟩,
    ⟨.post, "/upload-file", "upload_file",
      relay "ServerProcessor.process_upload_file"
        [.given "file", .given "project_id", .given "user"]⟩]

def datasources : List Route :=
  [⟨.put, "/adding-user-details", "add_data_source_details",
      relay "DatasourceProcessor.add_data_source_details" [.given "request"]⟩,
    ⟨.delete, "/remove-user-details", "remove_user_details",
      relay "DatasourceProcessor.remove_user_details" [.given "request"]⟩,
    ⟨.get, "/get-user-details", "get_all_ds_details",
      relay "DatasourceProcessor.get_user_details" [.given "request"]⟩,
    ⟨.put, "/update-existing-ds-details", "update_existing_ds_details",
      relay "DatasourceProcessor.update_existing_data_source" [.given "request"]⟩]

/-- The rows of the table of servers as it once was; there may be no such table. -/
def formerServers : Option (List Json) → Except Fault Response
  | some rows => .ok (.plain (.arr rows))
  | none => .error (.http 500 (.str "Error fetching server details: "))

def serverDetails : List Route :=
  [⟨.get, "/servers", "get_server_details", fun _ => Op.ofExcept (formerServers none)⟩]

end ReportMigration.Api
