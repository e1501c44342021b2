import ReportMigration.Api.Accounts
import ReportMigration.Api.Conversion
import ReportMigration.Api.Dashboard
import ReportMigration.Api.Flows
import ReportMigration.Api.Folders
import ReportMigration.Api.Servers
import ReportMigration.Api.Workspace
/-!
All routes, in groups.
-/
namespace ReportMigration.Api

/-- The groups of routes by their names. -/
def groups : List (String × List Route) :=
  [("analysis", analysis), ("auth", accounts), ("common_filters", filters),
    ("dashboard", dashboard), ("datasources", datasources), ("dax", calculations),
    ("discover", discovery), ("folders", folders), ("migrate", migration),
    ("organization", organizations), ("prep", flows), ("semantic_model", semanticModel),
    ("server_configure", servers), ("server_details", serverDetails), ("workspace", workspace)]

/-- The routes of a group. -/
def group (name : String) : List Route := ((groups.find? fun g => g.1 = name).map (·.2)).getD []

/-- The route of a group with an operation. -/
def route? (name operation : String) : Option Route :=
  (group name).find? (·.operation = operation)

end ReportMigration.Api
