import ReportMigration.Accounts.Role
import ReportMigration.Catalogue.Page
import ReportMigration.Text.Like
/-!
Users: looking them up, listing them by role and manager, signing in, registration and changes.

An address is compared as a pattern: letters of either case agree, a percent sign stands for any
text and an underscore for any character. The name of a user follows from the first and last name.
-/
namespace ReportMigration

/-- A user with what belongs to them. -/
structure UserProfile where
  user : User
  role : Option Role
  organization : Option Organization

/-- A user as organisations list them. -/
structure UserEntry where
  user : User
  roleName : RoleName

/-- How many users of each role an organisation has. -/
structure Headcount where
  total : Nat
  admins : Nat
  managers : Nat
  developers : Nat

namespace Database

/-- A user whose address is like the given one. -/
def userByEmail? (db : Database) (email : Option String) : Option User :=
  db.users.find? fun u => email.any (Text.like u.email ·)

/-- A user with a phone number or with an address that is like the given one. -/
def userLike? (db : Database) (email phoneNumber : Option String) : Option User :=
  db.users.find? fun u => some u.phoneNumber = phoneNumber || email.any (Text.like u.email ·)

/-- The user with role and organisation. -/
def profile (db : Database) (u : User) : Except Fault UserProfile := do
  let role ← (db.findRole? u.roleId).mapM Role.read
  return ⟨u, role, db.findOrganization? u.organizationId⟩

/-- The users of an organisation with a role that are not marked as deleted. -/
def members (db : Database) (organization : Id) (n : RoleName) : List User :=
  db.users.filter fun u =>
    u.organizationId = organization && db.hasRoleName u n && !u.audit.isDeleted

/-- The managers of an organisation. -/
def managersOf (db : Database) (organization : Id) : List User := db.members organization .manager

/-- The developers of an organisation. -/
def developersOf (db : Database) (organization : Id) : List User :=
  db.members organization .developer

/-- The developers of an organisation under a manager. -/
def developersUnder (db : Database) (organization : Id) (manager : Option Id) : List User :=
  (db.developersOf organization).filter (·.managerId = manager)

/-- How many users of an organisation have a role and are not marked as deleted. -/
def memberTotal (db : Database) (organization : Id) (n : RoleName) : Nat :=
  db.users.countP fun u =>
    u.organizationId = organization && db.hasRoleName u n && !u.audit.isDeleted

/-- How many developers of an organisation are under a manager. -/
def subordinateTotal (db : Database) (organization : Id) (manager : Option Id) : Nat :=
  db.users.countP fun u =>
    u.organizationId = organization && u.managerId = manager && db.hasRoleName u .developer &&
      !u.audit.isDeleted

/-- A page of users, ordered by name. -/
def userPage (users : List User) (p : Page) : Except Fault (List User) :=
  p.of (ascending (·.name) users)

/-- The managers of an organisation, those marked as deleted included. -/
def everyManagerOf (db : Database) (organization : Id) : List User :=
  db.users.filter fun u => u.organizationId = organization && db.hasRoleName u .manager

/-- All users of an organisation who have a role. -/
def userEntries (db : Database) (organization : Id) : Except Fault (List UserEntry) :=
  (db.users.filter (·.organizationId = organization)).filterMapM fun u =>
    match db.findRole? u.roleId with
    | some r => return some ⟨u, ← r.name.read⟩
    | none => return none

/-- How many users of each role an organisation has. -/
def headcount (db : Database) (organization : Id) : Headcount where
  total := (db.users.filter fun u => u.organizationId = organization && !u.audit.isDeleted).length
  admins := (db.members organization .admin).length
  managers := (db.managersOf organization).length
  developers := (db.developersOf organization).length

end Database

namespace User

/-- The name of a user for whom none is given. -/
def unknownName : String := "Unknown User"

/-- The name that a new user gets: first and last name if both are given, else the one given. -/
def nameOnEntry (first last : Option String) : String :=
  let first := first.getD ""
  let last := last.getD ""
  let both := if first.isEmpty || last.isEmpty then "" else Text.trim (first ++ " " ++ last)
  if !both.isEmpty then both
  else if !first.isEmpty then first
  else if !last.isEmpty then last
  else unknownName

/-- The name of a user whose first or last name was changed. -/
def nameOnChange (first last : Option String) : String :=
  let both := Text.trim (first.getD "" ++ " " ++ last.getD "")
  if both.isEmpty then unknownName else both

end User

/-! ## Signing in -/

/-- Signs a user in: the password must go with what is kept of that of the user, and the time is
    noted. -/
def signIn (email : Option String) (password : String) : Op User := do
  let db ← Op.db
  match db.userByEmail? email with
  | none => throw (.refuse .authentication "User not found.")
  | some u =>
    if (← get).verifies password u.passwordHash then
      let t ← Op.now
      let u := { u with lastLogin := some t, audit := u.audit.touch }
      Op.change fun db => { db with users := db.users.map fun x => if x.id = u.id then u else x }
      return u
    else throw (.refuse .authentication "Incorrect password. Please try again.")

/-! ## Registration -/

/-- What a registration asks for. -/
structure Registration where
  email : Option String
  password : String
  phoneNumber : Option String
  firstName : Option String
  lastName : Option String
  organizationId : Id
  roleId : Id
  managerId : Option Id

namespace Registration

/-- Reads a registration. -/
def ofValue (v : Value) : Except Fault Registration := do
  let email ← v.attr "email"
  let password ← v.attr "password"
  let phoneNumber ← v.attr "phone_number"
  let organization ← (← v.attr "organization_id").toId
  let role ← (← v.attr "role_id").toId
  let manager ← v.attr "manager_id"
  let manager ← if manager.isTruthy then some <$> manager.toId else pure none
  return {
    email := email.text?
    password := password.display
    phoneNumber := phoneNumber.text?
    firstName := v.optionalText "first_name"
    lastName := v.optionalText "last_name"
    organizationId := organization
    roleId := role
    managerId := manager }

/-- The user that a registration makes. -/
def toUser (r : Registration) (id : Id) (hash : String → String) : Except Fault User := do
  let email ← required "users" "email" r.email
  let phoneNumber ← required "users" "phone_number" r.phoneNumber
  return {
    audit := {}
    id := id
    name := User.nameOnEntry r.firstName r.lastName
    email := email
    passwordHash := hash r.password
    phoneNumber := phoneNumber
    firstName := r.firstName
    lastName := r.lastName
    status := some "ACTIVE"
    lastLogin := none
    organizationId := r.organizationId
    roleId := r.roleId
    managerId := r.managerId }

end Registration

/-- Enters a user under an identifier. -/
def enrol (r : Registration) (id : Id) : Op User := Op.transaction do
  let u ← Op.ofExcept (r.toUser id (← get).hashPassword)
  Op.write (·.addUser u)
  return u

/-- Reads a registration and enters the user. -/
def register (v : Value) : Op User := do
  let id ← Op.drawId
  let r ← Op.ofExcept (Registration.ofValue v)
  enrol r id

/-- The older way to enter a user. It finds a clash of addresses or phone numbers, and else fails:
    the password it gives has no column to go to. -/
def registerPlain (email phoneNumber : Option String) : Op Unit := do
  let clash := (← Op.db).users.find? fun u =>
    some u.email = email || some u.phoneNumber = phoneNumber
  match clash with
  | some u =>
    if some u.email = email then throw (.refuse .conflict "Email already exists")
    else throw (.refuse .conflict "Phone number already exists")
  | none => throw (.wrongType "'password' is an invalid keyword argument for User")

/-! ## Changes -/

/-- The changes to a user; each is left out, or gives a text or nothing. -/
structure UserChanges where
  phoneNumber : Option (Option String) := none
  firstName : Option (Option String) := none
  lastName : Option (Option String) := none
  roleId : Option (Option String) := none
  managerId : Option (Option String) := none
  status : Option (Option String) := none

/-- The texts that the status of a user can be. -/
def User.statuses : List String := ["ACTIVE", "INACTIVE"]

/-- The user after the changes, and what is wrong with them. -/
structure UserReview where
  user : User
  /-- The phone number is to be taken away. -/
  losesPhone : Bool := false
  changed : Bool := false
  errors : List String := []

namespace UserChanges

/-- Changes the phone number, unless another user has it. -/
def reviewPhone (c : UserChanges) (db : Database) (r : UserReview) : UserReview :=
  match c.phoneNumber with
  | none => r
  | some p =>
    if db.users.any fun x => some x.phoneNumber = p && x.id ≠ r.user.id then
      { r with errors := r.errors ++ ["Phone number already exists"] }
    else match p with
      | none => { r with losesPhone := true }
      | some p =>
        { r with
          user := { r.user with phoneNumber := p }
          changed := r.changed || p ≠ r.user.phoneNumber }

/-- Changes the first and last name, and with them the name. -/
def reviewName (c : UserChanges) (r : UserReview) : UserReview :=
  if c.firstName.isNone && c.lastName.isNone then r
  else
    let first := c.firstName.getD r.user.firstName
    let last := c.lastName.getD r.user.lastName
    let name := User.nameOnChange first last
    { r with
      user := { r.user with firstName := first, lastName := last, name := name }
      changed := r.changed || first ≠ r.user.firstName || last ≠ r.user.lastName ||
        name ≠ r.user.name }

/-- What is written so far must be acceptable before the next look-up. -/
def settle (r : UserReview) : Except Fault Unit :=
  if r.losesPhone then .error (.violated (.missing "users" "phone_number")) else .ok ()

/-- Changes what a user refers to, which must be found. -/
def reviewReference (given : Option (Option String)) (find : Id → Except Fault Bool)
    (missing : String) (set : User → Id → User) (r : UserReview) : Except Fault UserReview := do
  match given with
  | none => return r
  | some i =>
    settle r
    match i with
    | some i =>
      if ← find ⟨i⟩ then return { r with user := set r.user ⟨i⟩, changed := true }
      else throw (.badValue missing)
    | none => throw (.badValue missing)

/-- Changes the role, which must exist and have a known name. -/
def reviewRole (c : UserChanges) (db : Database) : UserReview → Except Fault UserReview :=
  reviewReference c.roleId (fun i => return (← (db.findRole? i).mapM Role.read).isSome)
    "Invalid role_id: Role not found" fun u i => { u with roleId := i }

/-- Changes the manager, who must exist. -/
def reviewManager (c : UserChanges) (db : Database) : UserReview → Except Fault UserReview :=
  reviewReference c.managerId (fun i => return db.hasUser i)
    "Invalid manager_id: Manager not found" fun u i => { u with managerId := some i }

/-- Changes the status, which must be one of the known ones. -/
def reviewStatus (c : UserChanges) (r : UserReview) : UserReview :=
  match c.status with
  | none => r
  | some s =>
    if s.any User.statuses.contains then
      { r with user := { r.user with status := s }, changed := r.changed || s ≠ r.user.status }
    else
      { r with errors := r.errors ++
          ["Invalid status. Must be one of: " ++ ", ".intercalate User.statuses] }

/-- The user after a review, or what is wrong with the changes. -/
def conclude (r : UserReview) : Except Fault User :=
  if r.errors.isEmpty then
    match settle r with
    | .error e => .error (.http 400 (.str ("Database error: " ++ e.text)))
    | .ok () => .ok (if r.changed then { r.user with audit := r.user.audit.touch } else r.user)
  else .error (.http 400 (.arr (r.errors.map .str)))

/-- The user after all changes, or what is wrong with them. -/
def apply (c : UserChanges) (db : Database) (u : User) : Except Fault User := do
  let r ← c.reviewRole db (c.reviewName (c.reviewPhone db { user := u }))
  let r ← c.reviewManager db r
  conclude (c.reviewStatus r)

end UserChanges

/-- Changes a user on behalf of another one. -/
def updateUser (target : Id) (changes : UserChanges) (actor : Id) : Op Unit := do
  let db ← Op.db
  match db.findUser? target with
  | none => throw (.refuse .authentication "User not found")
  | some u =>
    if u.id = actor then
      throw (.refuse .authorization "You are not authorized to update your own user details.")
    let u ← Op.ofExcept (changes.apply db u)
    Op.change fun db => { db with users := db.users.map fun x => if x.id = u.id then u else x }

end ReportMigration
