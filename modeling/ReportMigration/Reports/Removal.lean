import ReportMigration.Projects.Listing
import ReportMigration.Projects.Tree
import ReportMigration.Reports.Report
import ReportMigration.Reports.Visual
import ReportMigration.Servers.Credential
import ReportMigration.Storage.Archive
/-!
Removal of reports, of projects with everything below them, and of servers with everything on them.

Removing a report archives its objects and takes its row, its log and its analyses out of the
catalogue. Its visuals go first, and stay gone even if the rest fails. Where the archive is waited for,
it is for a limited time: if that is over the removal fails, while the archive goes on.
-/
namespace ReportMigration

namespace Database

/-- Removes a report with its log and analyses. -/
def removeReport (db : Database) (report : Id) : Database :=
  { db with
    logs := db.logs.filter (·.reportId ≠ report)
    analyses := db.analyses.filter (·.reportId ≠ report)
    reports := db.reports.filter (·.id ≠ report) }

/-- Removes projects. No report may be left in them, and no project below them. -/
def removeProjects (db : Database) (gone : List Id) : Except Fault Database := do
  let kept := db.projects.filter fun p => !gone.contains p.id
  let lost := fun i => gone.contains i && db.hasProject i
  resolved ((db.reports.all fun r => !lost r.projectId) &&
    kept.all fun p => p.parentId.all fun i => !lost i)
  return { db with projects := kept }

/-- Removes a server. No project may be left on it, and no credential. -/
def removeServer (db : Database) (server : Id) : Except Fault Database := do
  resolved ((db.projects.all fun p => p.serverId ≠ some server) &&
    db.credentials.all fun c => c.serverId ≠ server)
  return { db with servers := db.servers.filter (·.id ≠ server) }

end Database

/-- How a report is removed. -/
inductive ArchiveTime where
  /-- Its objects are archived before the answer. -/
  | now
  /-- Its objects are archived after the answer. -/
  | later

/-- How many seconds an archive is waited for. -/
def archiveLimit : Nat := 300

/-- The fault of a removal whose archive is not waited for any longer. -/
def overdue (report : Id) : Fault :=
  .failure (.named "TimeoutError")
    ("Archive/delete operation timed out for report " ++ report.text)

/-- The seconds slept so far. -/
def Deployment.slept (d : Deployment) : Nat := d.sleeps.foldr (· + ·) 0

/-- Archives the folder of a report with a provider and waits for it as long as is allowed. Failures of
    storage are passed over. What is left behind is what the archive leaves at its end, also where it
    is not waited for so long. -/
def archiveInTime (provider : Provider) (folder : ReportFolder) : Op Unit := do
  let before := (← get).slept
  let _ ← Op.attempt (archiveFolder provider folder)
  let d ← get
  if archiveLimit < d.archiveSeconds folder (d.slept - before) then throw (overdue folder.reportId)

/-- Removes a report; the answer says whether there was one. -/
def removeReport (report : Option Id) (orgName : String) (time : ArchiveTime) : Op Bool := do
  match ← Op.ofExcept ((← Op.db).report? report) with
  | none => return false
  | some r =>
    Op.change (·.removeVisuals r.id)
    let provider ← Op.provider
    let folder : ReportFolder := ⟨orgName, r.reportId⟩
    match time with
    | .now => archiveInTime provider folder
    | .later => Op.later { name := "run_storage_tasks", archive := some (provider, folder) }
    Op.change (·.removeReport r.id)
    return true

/-- Removes reports one after the other. -/
def removeReports (orgName : String) : List Id → Op Unit
  | [] => return ()
  | i :: is => do
    let _ ← removeReport (some i) orgName .now
    removeReports orgName is

/-- Removes a project with everything below it. -/
def removeProject (project : Id) (orgName : String) : Op Unit := do
  let db ← Op.db
  let projects ← Op.ofExcept (db.subtree project)
  let reports ← Op.ofExcept <|
    (db.reports.filter fun r => projects.contains r.projectId).mapM Report.read
  removeReports orgName (reports.map (·.id))
  Op.write (·.removeProjects projects)

/-- Removes projects one after the other. -/
def removeProjects (orgName : String) : List Id → Op Unit
  | [] => return ()
  | i :: is => do
    removeProject i orgName
    removeProjects orgName is

/-- Removes a server with its projects, credentials and sites. -/
def removeServer (server : Id) (orgName : String) : Op Unit := do
  let db ← Op.db
  match db.findServer? server with
  | none => throw (.badValue "Server not found")
  | some s =>
    let _ ← Op.ofExcept s.read
    removeProjects orgName ((db.projects.filter (·.serverId = some server)).map (·.id))
    let credentials ← Op.ofExcept ((← Op.db).readCredentialsOf (some server))
    unless credentials.isEmpty do
      removeSites (credentials.map (·.id))
      removeCredentials (some server)
    Op.write (·.removeServer server)

/-- Removes the projects of a server without saying for which organisation, which cannot be done. -/
def removeProjectsOn (server : Option Id) : Op Unit := do
  if !((← Op.db).projectIdsOn server).isEmpty then
    throw (.wrongType ("ProjectDetailManager.soft_delete_project_and_children() missing 1 required " ++
      "positional argument: 'org_name'"))

end ReportMigration
