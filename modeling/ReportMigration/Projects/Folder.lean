import ReportMigration.Deployment
/-!
Making, renaming and assigning projects. A folder is a project that belongs to no site or server.
-/
namespace ReportMigration

/-- What is given for a new project. -/
structure ProjectForm where
  id : Option Id
  name : Option String
  siteId : Option Id := none
  serverId : Option Id := none
  parentId : Option Id := none
  userId : Option Id
  createdBy : Option Id := none
  updatedBy : Option Id := none
  isUpload : Bool := false

/-- The row of a form with an identifier, a name and an owner. -/
def ProjectForm.row (form : ProjectForm) (id : Id) (name : String) (user : Id) : Project where
  audit := { createdBy := form.createdBy, updatedBy := form.updatedBy }
  id := id
  name := name
  isUpload := form.isUpload
  siteId := form.siteId
  serverId := form.serverId
  parentId := form.parentId
  userId := user
  assignedTo := none

/-- The project that a form makes. -/
def ProjectForm.toProject (form : ProjectForm) (id : Id) : Except Fault Project := do
  return form.row id (← required "project_details" "name" form.name)
    (← required "project_details" "user_id" form.userId)

/-- Adds a project. -/
def addProject (form : ProjectForm) : Op Project := Op.transaction do
  let id ← match form.id with
    | some id => pure id
    | none => Op.drawId
  let project ← Op.ofExcept (form.toProject id)
  Op.write (·.addProject project)
  return project

namespace Database

/-- The catalogue with a project in the place of the one with the same identifier. -/
def setProject (db : Database) (p : Project) : Database :=
  { db with projects := db.projects.map fun x => if x.id = p.id then p else x }

/-- Assigns a project to a user or to nobody. -/
def assignProject (db : Database) (p : Project) (user : Option Id) : Except Fault Project := do
  if user = p.assignedTo then return p
  resolved (user.all db.hasUser)
  return { p with assignedTo := user, audit := p.audit.touch }

end Database

/-- The project under another name. -/
def Project.rename (p : Project) (name : Option String) (updatedBy : Option Id) :
    Except Fault Project := do
  if name = some p.name && updatedBy = p.audit.updatedBy then return p
  let name ← required "project_details" "name" name
  return { p with name := name, audit := { p.audit.touch with updatedBy := updatedBy } }

/-- Renames a project, if there is one. -/
def renameProject (project : Option Id) (name : Option String) (updatedBy : Option Id) :
    Op (Option Project) := do
  let db ← Op.db
  match db.projects.find? fun p => some p.id = project with
  | none => return none
  | some p =>
    let p ← Op.ofExcept (p.rename name updatedBy)
    Op.change (·.setProject p)
    return some p

/-- Assigns a project that is not marked as deleted. -/
def assignProject (project user : Option Id) : Op (Option (Project × Option User)) := do
  let db ← Op.db
  match db.projects.find? fun p => some p.id = project && !p.audit.isDeleted with
  | none => return none
  | some p =>
    let p ← Op.ofExcept (db.assignProject p user)
    Op.change (·.setProject p)
    return some (p, p.assignedTo.bind db.findUser?)

end ReportMigration
