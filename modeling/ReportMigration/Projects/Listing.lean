import ReportMigration.Accounts.User
import ReportMigration.Projects.Access
/-!
Listings of projects: the roots of an organisation or user, what lies below a project, and what
belongs to a site. A project that is assigned to nobody is shown as assigned to the administrator.
-/
namespace ReportMigration

/-- Who a project is assigned to, as listings show it. -/
structure Assignee where
  id : Option Id := none
  name : Option String := none
  roleId : Option Id := none
  managerId : Option Id := none

/-- A project and who it is assigned to. -/
structure AssignedProject where
  project : Project
  assignee : Assignee

namespace Database

/-- The first administrator. -/
def admin? (db : Database) : Option User := db.users.find? (db.hasRoleName · .admin)

/-- The first administrator who is not marked as deleted. -/
def activeAdmin? (db : Database) : Option User :=
  db.users.find? fun u => db.hasRoleName u .admin && !u.audit.isDeleted

/-- Who a project is assigned to, or `fallback` if it is assigned to nobody. -/
def assignee (db : Database) (fallback : Assignee) (p : Project) : Assignee :=
  match p.assignedTo with
  | none => fallback
  | some i =>
    match db.findUser? i with
    | some u => ⟨i, u.name, u.roleId, u.managerId⟩
    | none => { id := some i }

/-- Uploaded projects without a parent, created in an organisation. -/
def rootProjectsIn (db : Database) (organization : Id) : List Project :=
  db.projects.filter fun p =>
    p.isUpload && p.parentId.isNone && !p.audit.isDeleted && db.createdIn (some organization) p

/-- How many uploaded projects without a parent were created in an organisation. -/
def rootProjectTotal (db : Database) (organization : Id) : Nat :=
  db.projects.countP fun p =>
    p.isUpload && p.parentId.isNone && !p.audit.isDeleted && db.createdIn (some organization) p

/-- A page of uploaded root projects with their assignees, those created last first. -/
def rootProjectPage (db : Database) (organization : Id) (page : Page) :
    Except Fault (List (Project × Option User)) := do
  let rows ← page.of (descending (·.audit.createdAt.micros) (db.rootProjectsIn organization))
  return rows.map fun p => (p, p.assignedTo.bind db.findUser?)

/-- The uploaded projects of a user below a parent, or at the root. -/
def uploadsOf (db : Database) (user : Id) (parent : Option Id) : List Project :=
  db.projects.filter fun p =>
    p.userId = user && p.parentId = parent && !p.audit.isDeleted && p.isUpload

/-- How many projects a user has uploaded below a parent, or at the root. -/
def uploadTotal (db : Database) (user : Id) (parent : Option Id) : Nat :=
  db.projects.countP fun p =>
    p.userId = user && p.parentId = parent && !p.audit.isDeleted && p.isUpload

/-- A page of projects, those changed last first. -/
def projectPage (projects : List Project) (page : Page) : Except Fault (List Project) :=
  page.of (descending (·.audit.updatedAt.micros) projects)

/-- The reports of some projects that are not marked as deleted. -/
def liveReportsOf (db : Database) (projects : List Id) : List Report :=
  db.reports.filter fun r => projects.contains r.projectId && r.isDeleted = some false

/-- Whether a user has a project of a name at a place; `except` is left out of account. -/
def hasProjectNamed (db : Database) (name : Option String) (user : Id) (parent : Option Id)
    (except : Option Id) : Bool :=
  db.projects.any fun p =>
    some p.name = name && p.userId = user && !p.audit.isDeleted && p.parentId = parent &&
      some p.id ≠ except

/-! ## The projects of a site -/

/-- The root projects of a site, the projects below them, the reports of the latter, and the users
    they are assigned to. -/
structure SiteView where
  roots : List Project
  children : List Project
  reports : List Report
  users : List User

/-- The project as assigned to the administrator, if it is assigned to nobody. -/
def lent (admin : Option User) (p : Project) : Project :=
  match admin, p.assignedTo with
  | some a, none => { p with assignedTo := some a.id, audit := p.audit.touch }
  | _, _ => p

/-- The projects and reports of a site. -/
def siteView (db : Database) (site : Option Id) : Except Fault SiteView := do
  let admin := db.activeAdmin?
  let roots := ascending (·.audit.createdAt.micros) <| db.projects.filter fun p =>
    p.siteId = site && p.parentId.isNone && !p.audit.isDeleted
  let rootIds := roots.map (·.id)
  let children := ascending (·.audit.createdAt.micros) <| db.projects.filter fun p =>
    (p.parentId.any rootIds.contains) && !p.audit.isDeleted
  let roots := roots.map (lent admin)
  let children := children.map (lent admin)
  let assigned := (roots ++ children).filterMap (·.assignedTo)
  let reports ← (db.liveReportsOf (children.map (·.id))).mapM Report.read
  let users := db.users.filter fun u => assigned.contains u.id && !u.audit.isDeleted
  return ⟨roots, children, reports, users⟩

/-! ## What lies below a project -/

/-- The projects below a parent with their assignees, those created last first. -/
def childProjects (db : Database) (parent : Option Id) : List AssignedProject :=
  let fallback : Assignee := match db.admin? with
    | some a => { id := some a.id, name := some a.name }
    | none => {}
  let rows := descending (·.audit.createdAt.micros) <| db.projects.filter fun p =>
    p.parentId = parent && !p.audit.isDeleted
  rows.map fun p => ⟨p, db.assignee fallback p⟩

/-- The reports of some projects, those created last first. -/
def latestReportsOf (db : Database) (projects : List Id) : List Report :=
  descending (·.createdAt.micros) (db.liveReportsOf projects)

/-- Who stands in for the assignee of a project that is assigned to nobody. -/
def standIn (db : Database) : Assignee :=
  match db.admin? with
  | some a => ⟨a.id, a.name, a.roleId, a.managerId⟩
  | none => { name := some "Admin" }

/-- The projects directly below some parents. -/
def projectsBelow (db : Database) (parents : List Id) : List Project :=
  db.projects.filter fun p => (p.parentId.any parents.contains) && !p.audit.isDeleted

/-- The projects directly below some parents with their assignees. -/
def assignedProjectsBelow (db : Database) (parents : List Id) : List AssignedProject :=
  (db.projectsBelow parents).map fun p => ⟨p, db.assignee db.standIn p⟩

/-- The reports of some parents and of the projects directly below them. -/
def reportsBelow (db : Database) (parents : List Id) : List Report :=
  db.liveReportsOf ((db.projectsBelow parents).map (·.id) ++ parents)

/-- A report with its project, site, assignee and analysis. -/
structure ReportContext where
  report : Report
  project : Project
  siteName : String
  assignedUser : Option String
  analysis : Option Analysis

/-- The reports of some parents and of the projects directly below them, each once for every
    analysis; without parents, those of all projects. -/
def reportContexts (db : Database) (parents : List Id) : Except Fault (List ReportContext) := do
  let projects :=
    if parents.isEmpty then db.projects.filter (!·.audit.isDeleted) else db.projectsBelow parents
  let reports := db.liveReportsOf (projects.map (·.id) ++ parents)
  let rows := reports.flatMap fun r =>
    match db.findProject? r.projectId with
    | none => []
    | some p =>
      let site := p.siteId.bind fun i => db.sites.find? (·.id = i)
      let row : Option Analysis → ReportContext := fun a =>
        ⟨r, p, (site.map (·.siteName)).getD "N/A", (db.assignee db.standIn p).name, a⟩
      match db.analyses.filter (·.reportId = r.id) with
      | [] => [row none]
      | as => as.map fun a => row (some a)
  rows.mapM fun c => do
    let _ ← (c.analysis.bind (·.complexity)).mapM Coded.read
    return c

/-- The identifiers of the projects on a server. -/
def projectIdsOn (db : Database) (server : Option Id) : List Id :=
  (db.projects.filter (·.serverId = server)).map (·.id)

end Database

end ReportMigration
