import ReportMigration.Catalogue.Database
/-!
Which projects and reports a user sees.

Everything that a user sees was created in their own organisation. Administrators see all of it,
managers what is assigned to them or to someone they manage, and developers what is assigned to
them. A role name that is none of these sees all of it too.
-/
namespace ReportMigration

/-- The report as it is read back; one with a status outside the set cannot be. -/
def Report.read (r : Report) : Except Fault Report := do
  let _ ← r.status.mapM Coded.read
  return r

/-- Who asks. -/
structure Viewer where
  id : Id
  organizationId : Option Id

/-- How much of an organisation a role sees. -/
inductive Reach where
  | all
  | team
  | own

/-- The reach of a role name, letter by letter. -/
def Reach.ofRoleName (role : String) : Reach :=
  if role = "Manager" then .team else if role = "Developer" then .own else .all

/-- The reach of a role name, in capital or small letters. -/
def Reach.ofAnyCase (role : String) : Reach :=
  let role := Text.lower role
  if role = "manager" then .team else if role = "developer" then .own else .all

namespace Database

/-- Whether a project lies within reach of a user. -/
def reaches (db : Database) (user : Id) (p : Project) : Reach → Bool
  | .all => true
  | .team => p.assignedTo.any fun i =>
      i = user || db.users.any fun u => u.id = i && u.managerId = some user
  | .own => p.assignedTo = some user

/-- Whether a project was created by someone of an organisation. -/
def createdIn (db : Database) (organization : Option Id) (p : Project) : Bool :=
  db.users.any fun u => u.id = p.userId && some u.organizationId = organization

/-- Whether a user sees a project. -/
def sees (db : Database) (v : Viewer) (reach : Reach) (p : Project) : Bool :=
  db.createdIn v.organizationId p && db.reaches v.id p reach

/-- The projects that a user sees, as they are selected. An answer loads their reports besides, which may
    fail. -/
def visibleProjects (db : Database) (v : Viewer) (role : String) : List Project :=
  db.projects.filter (db.sees v (.ofRoleName role))

/-- The reports that a user sees, each with its project, as they are selected. An answer reads them back
    besides, which may fail. -/
def visibleReports (db : Database) (v : Viewer) (role : String) : List (Report × Project) :=
  db.reports.filterMap fun r =>
    match db.findProject? r.projectId with
    | some p => if db.sees v (.ofAnyCase role) p then some (r, p) else none
    | none => none

/-- The reports of a project. -/
def reportsOf (db : Database) (p : Project) : List Report :=
  db.reports.filter (·.projectId = p.id)

end Database

/-- A project with its reports. -/
structure ProjectEntry where
  project : Project
  reports : List Report

/-- The project with its reports. -/
def Database.entry (db : Database) (p : Project) : Except Fault ProjectEntry := do
  return ⟨p, ← (db.reportsOf p).mapM Report.read⟩

end ReportMigration
