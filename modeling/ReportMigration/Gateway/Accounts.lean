import ReportMigration.Accounts.Organization
import ReportMigration.Accounts.User
import ReportMigration.Gateway.Answer
import ReportMigration.Gateway.Arguments
/-!
Requests about roles, organisations and users.
-/
namespace ReportMigration.Gateway

open Answer

def roleName : Handler := fun a => ask fun db => do
  return .str (Labelled.shown (← db.roleName (a.id? "role_id")))

def allRoles : Handler := fun _ => ask fun db => do return rowSet Role.toColumns (← db.allRoles)

def staffRoles : Handler := fun _ => ask fun db => do return rowSet Role.toColumns (← db.staffRoles)

def newRole : Handler := fun a => do return row (← createRole (a.text? "role_name")).toColumns

def organizationLike : Handler := fun a => view fun db =>
  row? Organization.toColumns (db.organizationLike? (a.text? "mobile_number") (a.text? "name"))

/-- The form of a new organisation from the columns that are given. -/
def organizationForm (c : Columns) : OrganizationForm where
  audit := c.audit
  id := c.id? "id"
  name := c.text? "name"
  credits := c.int "credits" none
  contactPersonName := c.text? "contact_person_name"
  mobileNumber := c.text? "mobile_number"
  address := c.text? "address"
  serviceType := c.text? "service_type"

def newOrganization : Handler := fun a => do
  let form := match (a.get "org_detail").toJson with
    | .obj fs => fs
    | _ => []
  return row (← createOrganization (organizationForm form)).toColumns

def organizationName : Handler := fun a => view fun db => .str (db.organizationName (a.id? "org_id"))

/-- A user with role and organisation. -/
def profileColumns (p : UserProfile) : Columns :=
  p.user.toColumns ++
    [("+role", row? Role.toColumns p.role),
      ("+organization", row? Organization.toColumns p.organization)]

/-- A user as organisations list them. -/
def userEntryColumns (e : UserEntry) : Columns :=
  let u := e.user
  [("id", .str u.id.text), ("name", .str u.name), ("email", .str u.email),
    ("phone_number", .str u.phoneNumber), ("first_name", .ofText? u.firstName),
    ("last_name", .ofText? u.lastName), ("status", .ofText? u.status),
    ("last_login", .ofTime? u.lastLogin), ("role_id", .str u.roleId.text),
    ("role_name", .str (Labelled.shown e.roleName)), ("manager_id", .ofId? u.managerId),
    ("organization_id", .str u.organizationId.text)]

def userByEmail : Handler := fun a => ask fun db => do
  match db.userByEmail? (a.text? "email") with
  | none => return .null
  | some u =>
    if a.flag "load_role" false then return row (profileColumns (← db.profile u))
    else return row u.toColumns

def userProfile : Handler := fun a => ask fun db => do
  match (a.id? "user_id").bind db.findUser? with
  | none => return .null
  | some u => return row (profileColumns (← db.profile u))

def login : Handler := fun a => do
  return row (← signIn (a.text? "email") (a.text "password")).toColumns

def userLike : Handler := fun a => ask fun db => do
  let data := a.get "data"
  let email ← data.attr "email"
  let phone ← data.attr "phone_number"
  return row? User.toColumns (db.userLike? email.text? phone.text?)

def newUser : Handler := fun a => do return row (← register (a.get "data")).toColumns

def managerNames : Handler := fun a => view fun db =>
  rowSet (fun u => [("id", .str u.id.text), ("name", .str u.name)])
    (db.everyManagerOf (a.id "org_id"))

/-- Users that requests are about: the rows, and their number, which is asked for apart. -/
structure UserSelection where
  rows : Database → Arguments → List User
  total : Database → Arguments → Nat

/-- A page of some users. -/
def usersPaged (users : UserSelection) : Handler := fun a => ask fun db => do
  return rows User.toColumns (← Database.userPage (users.rows db a) a.numberedPage)

/-- The number of some users. -/
def usersCounted (users : UserSelection) : Handler := fun a => view fun db =>
  .int (users.total db a)

/-- The managers of an organisation. -/
def managers : UserSelection where
  rows db a := db.managersOf (a.id "organization_id")
  total db a := db.memberTotal (a.id "organization_id") .manager

/-- The developers of an organisation. -/
def developers : UserSelection where
  rows db a := db.developersOf (a.id "organization_id")
  total db a := db.memberTotal (a.id "organization_id") .developer

/-- The developers of an organisation under a manager. -/
def subordinates : UserSelection where
  rows db a := db.developersUnder (a.id "organization_id") (a.id? "manager_id")
  total db a := db.subordinateTotal (a.id "organization_id") (a.id? "manager_id")

def subordinateIds : Handler := fun a => view fun db =>
  idSet ((subordinates.rows db a).map (·.id))

def userEntries : Handler := fun a => ask fun db => do
  return rowSet userEntryColumns (← db.userEntries (a.id "org_id"))

def headcount : Handler := fun a => view fun db =>
  let h := db.headcount (a.id "org_id")
  .obj [("total_users", .int h.total), ("admins", .int h.admins), ("managers", .int h.managers),
    ("developers", .int h.developers)]

def changeUser : Handler := fun a => do
  let data := match a.get "user_data" with
    | .map fs => fs
    | _ => []
  let actor ← Op.ofExcept ((a.get "current_user").attr "id")
  updateUser (a.id "user_id")
    { phoneNumber := Value.change? "phone_number" data
      firstName := Value.change? "first_name" data
      lastName := Value.change? "last_name" data
      roleId := Value.change? "role_id" data
      managerId := Value.change? "manager_id" data
      status := Value.change? "status" data } ⟨actor.display⟩
  return .null

/-- The older way to enter a user. -/
def newPlainUser : Handler := fun a => do
  registerPlain (a.text? "email") (a.text? "phone_number")
  return .null

end ReportMigration.Gateway
