import ReportMigration.Catalogue.Snapshot
import ReportMigration.Deployment
/-!
A sample catalogue of a chosen size: one organisation with its users, one server with a site, a root
project with projects below it, and reports that are spread over the projects in turn.

Every row is numbered, and its identifier follows from its kind and its number. `SampleSize.database`
builds the catalogue; a size without users, or with reports and no projects, has none.
-/
namespace ReportMigration

/-- How many rows of each kind a sample has. -/
structure SampleSize where
  users : Int := 4
  projects : Int := 4
  reports : Int := 8

namespace Sample

def organizationId : Id := .ofNat 1
def serverId : Id := .ofNat 200
def credentialId : Id := .ofNat 210
def siteId : Id := .ofNat 220
def userId (i : Nat) : Id := .ofNat (100 + i)
def projectId (i : Nat) : Id := .ofNat (300 + i)
def reportId (i : Nat) : Id := .ofNat (400 + i)

/-- The identifier of a role. -/
def roleId : RoleName → Id
  | .admin => .ofNat 10
  | .manager => .ofNat 11
  | .developer => .ofNat 12

/-- The user that manages the later ones. -/
def managerId : Id := userId 1

/-- The role of a user: of four in a row the first is an admin and the second a manager. -/
def roleOf (i : Nat) : RoleName :=
  match i % 4 with
  | 0 => .admin
  | 1 => .manager
  | _ => .developer

/-- A number in four digits at least. -/
def fourDigits (n : Nat) : String :=
  let s := toString n
  "".pushn '0' (4 - s.length) ++ s

def ofId (i : Id) : Json := .str i.text

def role (n : RoleName) : Role where
  audit := {}
  id := roleId n
  name := .known n

def organization : Organization := .ofColumns
  [("id", ofId organizationId), ("name", .str "Org"), ("contact_person_name", .str "CP"),
    ("mobile_number", .str "555"), ("address", .str "A"), ("service_type", .str "svc")]

def user (i : Nat) : User := .ofColumns
  [("id", ofId (userId i)), ("name", .str ("user" ++ toString i)),
    ("email", .str ("u" ++ toString i ++ "@ex.com")), ("password_hash", .str "h"),
    ("phone_number", .str ("555-" ++ fourDigits i)), ("organization_id", ofId organizationId),
    ("role_id", ofId (roleId (roleOf i))),
    ("manager_id", if i < 2 then .null else ofId managerId)]

def server : Server := .ofColumns
  [("id", ofId serverId), ("organization_id", ofId organizationId), ("user_id", ofId (userId 0)),
    ("name", .str "srv"), ("server_url", .str "http://s"), ("status", .str "ACTIVE"),
    ("type", .str "CLOUD")]

def credential : Credential := .ofColumns
  [("id", ofId credentialId), ("server_id", ofId serverId), ("pat_name", .str "p"),
    ("pat_secret", .str "s"), ("server_auth_type", .str "PAT")]

def site : Site := .ofColumns
  [("id", ofId siteId), ("credentials_id", ofId credentialId), ("site_name", .str "site"),
    ("site_id", ofId (.ofNat 221))]

def staleCredential : StaleCredential := .ofColumns
  [("id", ofId (.ofNat 800)), ("server_id", ofId serverId), ("pat_name", .str "p"),
    ("pat_secret", .str "c2Vj"), ("server_url", .str "http://s"), ("site_name", .str "s")]

/-- A project, which is assigned to one of `users` users in turn. -/
def project (users i : Nat) : Project := .ofColumns
  [("id", ofId (projectId i)), ("name", .str (if i = 0 then "root" else "proj" ++ toString i)),
    ("is_upload", .bool true), ("site_id", ofId siteId), ("server_id", ofId serverId),
    ("parent_id", if i = 0 then .null else ofId (projectId 0)), ("user_id", ofId (userId 0)),
    ("assigned_to", ofId (userId (i % users)))]

/-- A report of a project; every second one is analysed. -/
def report (project : Id) (i : Nat) : Report := .ofColumns
  [("id", ofId (reportId i)), ("name", .str ("rep" ++ toString i ++ ".twb")),
    ("report_id", ofId (.ofNat (500 + i))), ("project_id", ofId project),
    ("report_type", .str "twb"), ("is_analyzed", .bool (i % 2 = 1))]

def analysis (i : Nat) : Analysis := .ofColumns
  [("id", ofId (.ofNat (600 + i))), ("report_id", ofId (reportId i)), ("dashboard_count", .int i),
    ("worksheet_count", .int (2 * i)), ("complexity_type", .str "SIMPLE"),
    ("priority", .str "Low")]

def visual (i : Nat) : Visual := .ofColumns
  [("id", ofId (.ofNat (700 + i))), ("report_id", ofId (reportId i)),
    ("organization_id", ofId organizationId), ("workbook_name", .str ("wb" ++ toString i)),
    ("dashboard_name", .str "d"), ("visual_name", .str "v"), ("visual_type", .str "Bar"),
    ("visual_datasource", .str "ds"), ("sheet_name", .str "s"), ("datasource_type", .str "t"),
    ("type", .str (if i % 2 = 0 then "native" else "custom"))]

/-- A report of a project with an identifier and a name in object storage. -/
def reportAt (id stored project : Id) : Report :=
  { report project 0 with id := id, reportId := stored, projectId := project, status := none }

/-- A project at a place: on a server, on a site and below a parent. -/
def projectAt (id : Id) (server site parent : Option Id) : Project :=
  { project 1 0 with id := id, serverId := server, siteId := site, parentId := parent }

/-- A visual of a report. -/
def visualOf (id report : Id) : Visual := { visual 0 with id := id, reportId := report }

/-- The item of a list at a place, which counts from the end if it is negative. -/
def atPlace {α : Type} (xs : List α) (i : Int) : Except Fault α :=
  let i := if i < 0 then i + xs.length else i
  match if i < 0 then none else xs[i.toNat]? with
  | some x => .ok x
  | none => .error (.failure .index "list index out of range")

/-- The project that a report goes to. -/
def placeOf (projects : List Project) (divisor : Int) (i : Nat) : Except Fault Id := do
  if divisor = 0 then throw (.failure .zeroDivision "integer modulo by zero")
  return (← atPlace projects (Int.fmod i divisor)).id

end Sample

namespace SampleSize

open Sample

/-- The catalogue of a size. -/
def database (s : SampleSize) : Except Fault Database := do
  let users := (List.range s.users.toNat).map user
  discard (atPlace users 0)
  let projects := (List.range (max 1 s.projects.toNat)).map (project users.length)
  let numbers := List.range s.reports.toNat
  let reports ← numbers.mapM fun i => do return report (← placeOf projects s.projects i) i
  return {
    roles := [.admin, .manager, .developer].map role
    organizations := [organization]
    users := users
    servers := [server]
    credentials := [credential]
    sites := [site]
    projects := projects
    reports := reports
    analyses := numbers.map analysis
    visuals := numbers.map visual
    staleCredentials := [staleCredential] }

/-- The identifiers that the rows of a sample are found by, and its size. -/
def toJson (s : SampleSize) : Json :=
  .obj [("org_id", ofId organizationId), ("user_id", ofId (userId 0)), ("mgr_id", ofId managerId),
    ("server_id", ofId serverId), ("cred_id", ofId credentialId), ("site_id", ofId siteId),
    ("root_project", ofId (projectId 0)), ("n_users", .int s.users),
    ("n_projects", .int s.projects), ("n_reports", .int s.reports)]

end SampleSize

end ReportMigration
