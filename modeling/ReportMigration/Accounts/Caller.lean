import ReportMigration.Accounts.User
import ReportMigration.Json.Reader
import ReportMigration.Vocabulary.Basic
import ReportMigration.Wording.Limits
/-!
Who makes a request, and whether they may.

A request carries a token and an address in a form of its own; two services read them. `identify`
finds the user with the address and gives them the role that the token states. `Caller.current` and
`Caller.recent` differ in how they report that there is no such user.
-/
namespace ReportMigration

/-- A user who makes a request, with the role that their token states. -/
structure Caller where
  profile : UserProfile
  roleName : Json

namespace Caller

/-- The token in the header of a request. -/
def token : Value → Except Fault String
  | .text s =>
    if s.startsWith "Bearer " then .ok ((s.splitOn " ").getD 1 "")
    else .error (.refuse .authorization "Invalid Authorization header")
  | v => .error (.noAttribute v.typeName "startswith")

/-- The entry of a name in a map, null if there is none. -/
def entry (k : String) : Value → Except Fault Value
  | .map fs => .ok ((Value.field? k fs).getD .null)
  | v => .error (.noAttribute v.typeName "get")

/-- The value that a text states. -/
def statement : Value → Except Fault Json
  | .text s => (Json.read s).mapError fun e => .failure .jsonText (e.message s)
  | v => .error <| .wrongType
      ("the JSON object must be str, bytes or bytearray, not " ++ v.typeName)

/-- What is stated in what the service reads in a token. -/
def subject (read : Value) : Except Fault Json := do statement (← entry "sub" read)

/-- What a token states about the holder of an address. -/
def claims (token email : Value) : Op Json := do
  let read ← Op.call "decode_secure_jwt" [token, email]
  Op.ofExcept (subject read)

/-- The pattern that addresses are compared with. -/
def pattern : Value → Except Fault (Option String)
  | .null => .ok none
  | .bool b => .ok (some (if b then "1" else "0"))
  | .list _ | .map _ | .record _ | .reply .. =>
    .error (.failure (.named "InterfaceError")
      "Error binding parameter 0 - probably unsupported type.")
  | v => .ok (some v.display)

/-- The user of an address, with a role. -/
def lookUp (db : Database) (email : Value) (role : Json) : Except Fault Caller := do
  match db.userByEmail? (← pattern email) with
  | none => throw (.refuse .authentication "User not found")
  | some u => return ⟨← db.profile u, role⟩

/-- The user of an address, with the role that their token states. -/
def holder (db : Database) (email : Value) (stated : Json) : Except Fault Caller := do
  if !stated.isTruthy then throw (.refuse .authentication "Invalid token")
  let role ← entry "role" (.ofJson stated)
  if !role.isTruthy then throw (.refuse .authentication "Role not found in token")
  lookUp db email role.toJson

/-- The user whom the headers of a request name. -/
def identify (authorization encodedEmail : Value) : Op Caller := do
  let token ← Op.ofExcept (token authorization)
  let email ← Op.call "decode_base" [encodedEmail]
  let stated ← claims (.text token) email
  Op.ofExcept (holder (← Op.db) email stated)

/-- What is reported where nobody is identified: a status for each cause. -/
def reported (f : Fault) : Fault :=
  match f with
  | .refused r =>
    if r.kind = .authentication then .http 401 (.str f.text)
    else if r.kind = .authorization then .http 403 (.str f.text)
    else .http 500 (.str "Authentication failed")
  | _ => .http 500 (.str "Authentication failed")

/-- What is reported where nobody is identified: the status of the cause, which must have one. -/
def reportedByStatus (f : Fault) : Fault :=
  match f.status? with
  | some status => .refused ⟨.plain, status, .str f.text, []⟩
  | none => .noAttribute f.name "status_code"

/-- The user who makes a request, or a report of why there is none. -/
def ask (report : Fault → Fault) (authorization encodedEmail : Value) : Op Caller := do
  match ← (identify authorization encodedEmail).attempt with
  | .ok c => return c
  | .error f => throw (report f)

/-- The user who makes a request. -/
def current : Value → Value → Op Caller := ask reported

/-- The user who makes a request; a cause without a status is a failure of its own. -/
def recent : Value → Value → Op Caller := ask reportedByStatus

/-- The address in a request, if the token is for it. -/
def verifiedEmail (token encodedEmail : Value) : Op Value := do
  let checked ← Op.attempt do
    let email ← Op.call "decode_base" [encodedEmail]
    let stated ← Op.ofExcept (entry "email" (.ofJson (← claims token email)))
    if !(stated.toJson.agrees email.toJson) then
      throw (.refuse .authentication "Token/email mismatch")
    return email
  match checked with
  | .ok email => return email
  | .error f => throw (.refuse .authentication f.text)

/-- The address in the headers of a request. -/
def headerEmail (headers : List (String × Value)) : Option Value :=
  (headers.find? fun h => Text.lower h.1 = "x-user-email").map (·.2)

/-- The address in a request: in its headers, or else in its query. -/
def requestEmail (headers query : List (String × Value)) : Value :=
  ((headerEmail headers).getD .null).orElse ((Value.field? "email" query).getD .null)

/-- Turns away requests from blocked addresses. -/
def checkBlocked (headers query : List (String × Value)) : Except Fault Unit :=
  match requestEmail headers query with
  | .text s =>
    if Wording.blockedDomains.contains s then
      .error (.refuse .authorization "Access denied. This email is blocked.")
    else .ok ()
  | _ => .ok ()

/-- Turns away everybody but administrators. -/
def checkAdmin (db : Database) (role : Option Id) : Except Fault Unit := do
  if (← db.roleName role) ≠ .admin then
    throw (.refuse .authorization "Only Admins are authorized to access this endpoint.")

end Caller

end ReportMigration
