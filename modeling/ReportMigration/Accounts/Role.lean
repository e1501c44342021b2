import ReportMigration.Deployment
/-!
Roles: a name for each role identifier, and the making of roles.
-/
namespace ReportMigration

/-- The role as it is read back; a role with a name outside the set cannot be. -/
def Role.read (r : Role) : Except Fault Role := do
  let _ ← r.name.read
  return r

namespace Database

/-- The name of the role with an identifier. -/
def roleName (db : Database) (role : Option Id) : Except Fault RoleName :=
  match db.roles.find? fun r => some r.id = role with
  | some r => r.name.read
  | none => .error (.refuseSilently .notFound "Role not found")

/-- All roles. -/
def allRoles (db : Database) : Except Fault (List Role) := db.roles.mapM Role.read

/-- All roles but that of the administrator. -/
def staffRoles (db : Database) : Except Fault (List Role) :=
  (db.roles.filter fun r => r.name.stored ≠ "ADMIN").mapM Role.read

/-- Whether a user has a role. -/
def hasRoleName (db : Database) (u : User) (n : RoleName) : Bool :=
  db.roles.any fun r => r.id = u.roleId && r.name.stored = Labelled.stored n

end Database

/-- Makes a role. A name outside the set is stored, but the role cannot be read back. -/
def createRole (name : Option String) : Op Role := do
  let role ← Op.transaction do
    let id ← Op.drawId
    let name ← Op.ofExcept (required "roles" "name" name)
    let role : Role := ⟨{}, id, .ofText name⟩
    Op.write (·.addRole role)
    return role
  Op.ofExcept role.read

end ReportMigration
