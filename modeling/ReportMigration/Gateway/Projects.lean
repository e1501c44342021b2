import ReportMigration.Gateway.Answer
import ReportMigration.Gateway.Arguments
import ReportMigration.Projects.Search
import ReportMigration.Projects.Upload
import ReportMigration.Reports.Removal
/-!
Requests about projects.
-/
namespace ReportMigration.Gateway

open Answer

/-- A project with its reports. -/
def projectEntryColumns (e : ProjectEntry) : Columns :=
  e.project.toColumns ++ [("+reports", rowSet Report.toColumns e.reports)]

/-- An operation in a session that comes with the request: without a commit, what it writes is
    lost. -/
def inSession {α : Type} (a : Arguments) (x : Op α) : Op α :=
  if a.session = some .close then x.discarding else x

/-- Who a request comes from. -/
def viewer (a : Arguments) : Except Fault Viewer := do
  let user := a.get "user"
  let organization ← user.attr "organization_id"
  return ⟨⟨(user.optionalText "id").getD ""⟩, organization.text?.map Id.mk⟩

def visibleProjects : Handler := fun a => ask fun db => do
  let found := db.visibleProjects (← viewer a) (a.text "role_name")
  return rowSet projectEntryColumns (← found.mapM db.entry)

def visibleReports : Handler := fun a => ask fun db => do
  let found ← (db.visibleReports (← viewer a) (a.text "role_name")).mapM fun (r, p) => do
    return (← r.read, p)
  return rowSet (fun (r, p) => r.toColumns ++ [("+project", row p.toColumns)]) found

def rootProjects : Handler := fun a => ask fun db => do
  let found ← db.rootProjectPage (a.id "organization_id") a.numberedPage
  return .arr (found.map fun (p, u) => .arr [row p.toColumns, row? User.toColumns u])

def rootProjectCount : Handler := fun a => view fun db =>
  .int (db.rootProjectTotal (a.id "organization_id"))

def assign : Handler := fun a => do
  match ← assignProject (a.id? "project_id") (a.id? "user_id") with
  | none => return .null
  | some (p, u) => return row (p.toColumns ++ [("+assignee", row? User.toColumns u)])

def siteProjects : Handler := fun a => ask fun db => do
  let v ← db.siteView (a.id? "site_id")
  return .arr [rows Project.toColumns v.roots, rows Project.toColumns v.children,
    rowSet Report.toColumns v.reports,
    .obj (v.users.map fun u => (u.id.text, row u.toColumns))]

/-- A project with who it is assigned to. -/
def assignedColumns (p : AssignedProject) : Columns :=
  [("id", .str p.project.id.text), ("name", .str p.project.name),
    ("parent_id", .ofId? p.project.parentId), ("assigned_to", .ofId? p.assignee.id),
    ("assigned_to_name", .ofText? p.assignee.name),
    ("role_id", .ofId? p.assignee.roleId), ("manager_id", .ofId? p.assignee.managerId)]

/-- A report in brief. -/
def briefColumns (r : Report) : Columns :=
  [("id", .str r.id.text), ("name", .str r.name), ("project_id", .str r.projectId.text),
    ("view_count", .ofInt? r.viewCount)]

def childProjects : Handler := fun a => view fun db =>
  let found := db.childProjects (a.id? "parent_id")
  .arr [
    rows (fun p => assignedColumns p ++ [("created_at", .str p.project.audit.createdAt.iso)]) found,
    rows (fun r => briefColumns r ++ [("created_at", .str r.createdAt.iso)])
      (db.latestReportsOf (found.map (·.project.id)))]

def dropProjectsOn : Handler := fun a => do
  removeProjectsOn (a.id? "server_id")
  return .null

def projectIdsOn : Handler := fun a => view fun db => idSet (db.projectIdsOn (a.id? "server_id"))

/-- The uploads of a user that a request is about. -/
def uploads (parent : Option Id) (db : Database) (a : Arguments) : List Project :=
  db.uploadsOf (a.id "user_id") parent

def rootUploads : Handler := fun a => ask fun db => do
  return rows Project.toColumns (← Database.projectPage (uploads none db a) a.page)

def rootUploadCount : Handler := fun a => view fun db =>
  .int (db.uploadTotal (a.id "user_id") none)

def childUploads : Handler := fun a => ask fun db => do
  return rows Project.toColumns
    (← Database.projectPage (uploads (a.id? "parent_id") db a) a.page)

def childUploadCount : Handler := fun a => view fun db =>
  .int (db.uploadTotal (a.id "user_id") (a.id? "parent_id"))

def projectNameTaken : Handler := fun a => view fun db =>
  .bool (db.hasProjectNamed (a.text? "name") (a.id "user_id") (a.id? "parent_id")
    (a.id? "exclude_id"))

def projectName : Handler := fun a => do
  return row? Project.toColumns
    (← renameProject (a.id? "project_id") (a.text? "new_name") (a.id? "updated_by"))

def project : Handler := fun a => view fun db =>
  row? Project.toColumns ((a.id? "project_id").bind db.findProject?)

/-- The form of a new project. -/
def projectForm (a : Arguments) : ProjectForm :=
  { id := a.id? "id", name := a.text? "name", siteId := a.id? "site_id",
    serverId := a.id? "server_id", parentId := a.id? "parent_id", userId := a.id? "user_id",
    createdBy := a.id? "created_by", updatedBy := a.id? "updated_by",
    isUpload := a.flag "is_upload" false }

def newProject : Handler := fun a => do return row (← addProject (projectForm a)).toColumns

def newFolder : Handler := fun a => inSession a do
  return row (← addProject { projectForm a with siteId := none, serverId := none }).toColumns

def dropProject : Handler := fun a => do
  removeProject (a.id "project_id") (a.text "org_name")
  return .null

def upload : Handler := fun a => do
  let user ← Op.ofExcept ((a.get "user").attr "id")
  let storage := match a.get "cloud_storage" with
    | .settings n => (SettingsKind.all.find? (·.name = n)).getD .bucket
    | _ => .bucket
  uploadArchive (a.text "extract_dir") (a.text "filename") (a.id? "project_id") ⟨user.display⟩
    (a.text "org_name") (a.text "cloud_provider") storage (a.get "twbx_extractor").isTruthy
  return .null

def projectsBelow : Handler := fun a => view fun db =>
  let parents := a.ids "parent_ids"
  .arr [rowSet assignedColumns (db.assignedProjectsBelow parents),
    rowSet briefColumns (db.reportsBelow parents)]

/-- The keyword of a search. -/
def keyword (a : Arguments) : Except Fault String :=
  match (a.get "keyword").text? with
  | some s => .ok s
  | none => .error (.noAttribute (a.get "keyword").typeName "strip")

def search : Handler := fun a => ask fun db => do
  return rowSet projectEntryColumns (← db.searchEntries (← keyword a) (a.id? "org_id"))

def projectsWith : Handler := fun a => ask fun db => do
  return rowSet projectEntryColumns (← db.entriesWith (a.ids "project_ids"))

def searchHierarchy : Handler := fun a => ask fun db => do
  let found ← db.searchHierarchy (← keyword a) (a.id? "org_id")
  return .arr [.obj (found.projects.map fun e => (e.project.id.text, row (projectEntryColumns e))),
    .obj (found.children.map fun (parent, es) =>
      ((parent.map Id.text).getD "null", rowSet projectEntryColumns es))]

def projectOwner : Handler := fun a => ask fun db => do
  match (a.id? "project_user_id").bind db.findUser? with
  | none => return .obj []
  | some u =>
    let _ ← db.profile u
    return .obj [("id", .str u.id.text), ("assigned_user", .str u.name),
      ("role_id", .str u.roleId.text), ("manager_id", .ofId? u.managerId)]

def inventory : Handler := fun a => view fun db =>
  rowSet (fun (p, n) => [("project_id", .str p.id.text), ("project_name", .str p.name),
    ("report_count", .int n)]) (db.inventory (a.id "org_id"))

end ReportMigration.Gateway
