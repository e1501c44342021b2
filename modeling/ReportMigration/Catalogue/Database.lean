import ReportMigration.Catalogue.Row
/-!
The catalogue as a database: one list of rows per table, in the order of their insertion, and the
rules that every write obeys.

A row is admitted to its table if no other row has its identifier or a value that may not repeat, and
if what it refers to exists. A row may be removed if nothing that stays refers to it. The functions
`admit…` check the first and `Database.refersTo…` the second.
-/
namespace ReportMigration

/-- All tables. -/
structure Database where
  roles : List Role := []
  organizations : List Organization := []
  users : List User := []
  servers : List Server := []
  credentials : List Credential := []
  sites : List Site := []
  projects : List Project := []
  reports : List Report := []
  analyses : List Analysis := []
  logs : List Log := []
  visuals : List Visual := []
  staleCredentials : List StaleCredential := []
  datasources : List Datasource := []
  storageAccounts : List StorageAccount := []
  transactions : List Transaction := []

/-- The value of a column that must have one. -/
def required {α : Type} (table column : String) : Option α → Except Fault α
  | some a => .ok a
  | none => .error (.violated (.missing table column))

/-- Checks that no row has the value `v` in a column. -/
def unrepeated {α β : Type} [DecidableEq β] (table column : String) (rows : List α) (f : α → β)
    (v : β) : Except Fault Unit :=
  if rows.any fun r => f r = v then .error (.violated (.repeated table column)) else .ok ()

/-- Checks that references lead somewhere. -/
def resolved (ok : Bool) : Except Fault Unit :=
  if ok then .ok () else .error (.violated .dangling)

/-- The whole numbers that the database has room for. -/
def fits (n : Int) : Bool := -0x8000000000000000 ≤ n && n < 0x8000000000000000

/-- Checks that the database has room for a number. -/
def storable (n : Option Int) : Except Fault Unit :=
  if n.all fits then .ok () else .error .tooLarge

namespace Database

def hasRole (db : Database) (i : Id) : Bool := db.roles.any (·.id = i)

def hasOrganization (db : Database) (i : Id) : Bool := db.organizations.any (·.id = i)

def hasUser (db : Database) (i : Id) : Bool := db.users.any (·.id = i)

def hasServer (db : Database) (i : Id) : Bool := db.servers.any (·.id = i)

def hasCredential (db : Database) (i : Id) : Bool := db.credentials.any (·.id = i)

def hasSite (db : Database) (i : Id) : Bool := db.sites.any (·.id = i)

def hasProject (db : Database) (i : Id) : Bool := db.projects.any (·.id = i)

def hasReport (db : Database) (i : Id) : Bool := db.reports.any (·.id = i)

/-- Adds a role. -/
def addRole (db : Database) (r : Role) : Except Fault Database := do
  unrepeated "roles" "name" db.roles (fun x => x.name.stored) r.name.stored
  unrepeated "roles" "id" db.roles (·.id) r.id
  return { db with roles := db.roles ++ [r] }

/-- Adds an organisation. -/
def addOrganization (db : Database) (o : Organization) : Except Fault Database := do
  unrepeated "organization_details" "mobile_number" db.organizations (·.mobileNumber) o.mobileNumber
  unrepeated "organization_details" "id" db.organizations (·.id) o.id
  return { db with organizations := db.organizations ++ [o] }

/-- Adds a user. -/
def addUser (db : Database) (u : User) : Except Fault Database := do
  unrepeated "users" "phone_number" db.users (·.phoneNumber) u.phoneNumber
  unrepeated "users" "email" db.users (·.email) u.email
  unrepeated "users" "id" db.users (·.id) u.id
  -- a user may be named as their own manager
  resolved (db.hasOrganization u.organizationId && db.hasRole u.roleId &&
    u.managerId.all fun m => m = u.id || db.hasUser m)
  return { db with users := db.users ++ [u] }

/-- Adds a server. -/
def addServer (db : Database) (s : Server) : Except Fault Database := do
  unrepeated "tableau_server_details" "id" db.servers (·.id) s.id
  resolved (db.hasOrganization s.organizationId && db.hasUser s.userId)
  return { db with servers := db.servers ++ [s] }

/-- Adds a credential. -/
def addCredential (db : Database) (c : Credential) : Except Fault Database := do
  unrepeated "tableau_server_credentials" "id" db.credentials (·.id) c.id
  resolved (db.hasServer c.serverId)
  return { db with credentials := db.credentials ++ [c] }

/-- Adds a site. -/
def addSite (db : Database) (s : Site) : Except Fault Database := do
  unrepeated "tableau_site_details" "id" db.sites (·.id) s.id
  resolved (db.hasCredential s.credentialsId)
  return { db with sites := db.sites ++ [s] }

/-- Adds a project; it may be named as its own parent. -/
def addProject (db : Database) (p : Project) : Except Fault Database := do
  unrepeated "project_details" "id" db.projects (·.id) p.id
  resolved (p.siteId.all db.hasSite && p.serverId.all db.hasServer &&
    (p.parentId.all fun q => q = p.id || db.hasProject q) && db.hasUser p.userId &&
    p.assignedTo.all db.hasUser)
  return { db with projects := db.projects ++ [p] }

/-- Adds a report. -/
def addReport (db : Database) (r : Report) : Except Fault Database := do
  storable r.viewCount
  unrepeated "report_details" "id" db.reports (·.id) r.id
  resolved (db.hasProject r.projectId && r.createdBy.all db.hasUser && r.updatedBy.all db.hasUser)
  return { db with reports := db.reports ++ [r] }

/-- Adds an analysis. -/
def addAnalysis (db : Database) (a : Analysis) : Except Fault Database := do
  unrepeated "report_analysis" "id" db.analyses (·.id) a.id
  resolved (db.hasReport a.reportId)
  return { db with analyses := db.analyses ++ [a] }

/-- Adds a log entry. -/
def addLog (db : Database) (l : Log) : Except Fault Database := do
  unrepeated "report_logs" "id" db.logs (·.id) l.id
  resolved (db.hasReport l.reportId && db.hasUser l.createdBy)
  return { db with logs := db.logs ++ [l] }

/-- Adds a visual. -/
def addVisual (db : Database) (v : Visual) : Except Fault Database := do
  unrepeated "duplicate_analysis" "id" db.visuals (·.id) v.id
  return { db with visuals := db.visuals ++ [v] }

/-- Adds a stale credential. -/
def addStaleCredential (db : Database) (s : StaleCredential) : Except Fault Database := do
  unrepeated "stale_credentials" "id" db.staleCredentials (·.id) s.id
  return { db with staleCredentials := db.staleCredentials ++ [s] }

/-- The user with an identifier. -/
def findUser? (db : Database) (i : Id) : Option User := db.users.find? (·.id = i)

/-- The role with an identifier. -/
def findRole? (db : Database) (i : Id) : Option Role := db.roles.find? (·.id = i)

/-- The organisation with an identifier. -/
def findOrganization? (db : Database) (i : Id) : Option Organization :=
  db.organizations.find? (·.id = i)

/-- The server with an identifier. -/
def findServer? (db : Database) (i : Id) : Option Server := db.servers.find? (·.id = i)

/-- The credential with an identifier. -/
def findCredential? (db : Database) (i : Id) : Option Credential := db.credentials.find? (·.id = i)

/-- The project with an identifier. -/
def findProject? (db : Database) (i : Id) : Option Project := db.projects.find? (·.id = i)

/-- The report with an identifier. -/
def findReport? (db : Database) (i : Id) : Option Report := db.reports.find? (·.id = i)

end Database

end ReportMigration
