import ReportMigration.Gateway.Accounts
import ReportMigration.Gateway.Reports
import ReportMigration.Gateway.Servers
import ReportMigration.Workload.Basic
/-!
Workloads on users and roles: a round of questions about a sample organisation, and a round of
entries and changes most of which are turned down.
-/
namespace ReportMigration.Workload

open Sample

/-- What rows of users are called. -/
def userKind : String := "users.User"

/-- What rows of roles are called. -/
def roleKind : String := "roles.Role"

/-- The text of a part of a row: an identifier and a name. -/
def namedText (u : User) : String := "(" ++ idText u.id ++ ", " ++ Text.quoted u.name ++ ")"

/-! ## Questions -/

/-- The first page of ten users. -/
def firstUsers (users : List User) : Except Fault String := do
  return rowsText userKind (← Database.userPage users (.ofNumber 1 10))

/-- The texts of all that is asked about the users and roles of the sample. -/
def userTexts (db : Database) : Except Fault (List String) := do
  let org := organizationId
  let under := db.developersUnder org (some managerId)
  let headcount := db.headcount org
  return [
    ((db.userByEmail? (some (user 0).email)).map fun _ => rowText userKind).getD nothing,
    listText ((db.everyManagerOf org).map namedText),
    listText ((← db.userEntries org).map fun e => namedText e.user),
    (Json.obj [("total_users", .int headcount.total), ("admins", .int headcount.admins),
      ("managers", .int headcount.managers), ("developers", .int headcount.developers)]).display,
    ← firstUsers (db.managersOf org), ← firstUsers under, ← firstUsers (db.developersOf org),
    toString (db.memberTotal org .manager), toString (db.memberTotal org .developer),
    ← firstUsers (db.developersOf org), toString (db.subordinateTotal org (some managerId)),
    (Json.arr (under.map fun u => ofId u.id)).display,
    rowsText roleKind (← db.allRoles), rowsText roleKind (← db.staffRoles),
    Labelled.shown (← db.roleName (some (roleId .admin)))]

def userQueries : Workload where
  name := "user_manager_queries"
  parameter := "n_queries"
  run n := do
    return .arr (← rounds n fun _ => do
      let texts ← Op.ofExcept (userTexts (← Op.db))
      return texts.map fun s => .str (excerpt 20 s))

/-! ## Entries and changes -/

/-- An identifier that no row has. -/
def unknownId : Id := .ofNat 999999

/-- The registration of a developer. -/
def registration (i : Nat) : Registration where
  email := some ("new" ++ toString i ++ "@ex.com")
  password := "pw"
  phoneNumber := some ("777-" ++ fourDigits i)
  firstName := some ("F" ++ toString i)
  lastName := some ("L" ++ toString i)
  organizationId := organizationId
  roleId := roleId .developer
  managerId := some managerId

/-- The beginning of the text of an answer to a request. -/
def requested (h : Handler) (fields : List (String × Value)) : Op Json :=
  tried 30 do return (← h ⟨fields, none⟩).display

/-- An attempt to change a user. -/
def changed (target actor : Id) (changes : UserChanges) : Op Json := tried 30 do
  updateUser target changes actor
  return rowText userKind

/-- Enters a user, then tries changes that are turned down, each for another reason. -/
def entryRound (i : Nat) : Op (List Json) := do
  let form := registration i
  let added ← enrol form (← Op.drawId)
  let admin := userId 0
  let changes ← [
    changed added.id added.id {},
    changed unknownId admin {},
    changed added.id admin { status := some (some "ASLEEP") },
    changed added.id admin { roleId := some (some unknownId.text) },
    changed added.id admin { managerId := some (some unknownId.text) },
    tried 30 do return rowText (userKind ++ (← signIn (some "nobody@ex.com") "pw").name)].mapM id
  let known ← tried 30 do
    return (((← Op.db).userLike? form.email form.phoneNumber).map fun _ => rowText userKind).getD
      nothing
  let role ← tried 30 do
    return Labelled.shown (← Op.ofExcept ((← Op.db).roleName (some unknownId)))
  return .str added.name :: changes ++ [known, role]

/-- Changes to rows that do not exist. -/
def absentRound : Op (List Json) := do
  let unknown : Value := .id unknownId
  [requested Gateway.serverStatus
      [("server_id", unknown), ("status", .member "ServerStatus" "ACTIVE" (.str "ACTIVE"))],
    requested Gateway.dropServer [("server_id", unknown), ("org_name", .text "Org")],
    requested Gateway.reportName [("report_id", unknown), ("new_name", .text "x")],
    requested Gateway.projectName [("project_id", unknown), ("new_name", .text "x")],
    requested Gateway.assign [("project_id", unknown), ("user_id", .id (userId 0))],
    requested Gateway.dropReport [("report_id", unknown), ("org_name", .text "Org")],
    requested Gateway.rootName [("project_id", unknown)]].mapM id

def userWrites : Workload where
  name := "user_write_paths"
  parameter := "n_users"
  run n := do
    let entries ← rounds n entryRound
    return .arr (entries ++ (← absentRound))

end ReportMigration.Workload
