import ReportMigration.Accounts.Caller
import ReportMigration.Gateway.Accounts
/-!
Requests about who makes a request.
-/
namespace ReportMigration.Gateway

/-- A caller with role and organisation. -/
def callerColumns (c : Caller) : Columns :=
  profileColumns c.profile ++ [("role_name", c.roleName)]

def currentCaller : Handler := fun a => do
  return .obj (callerColumns (← Caller.current (a.get "authorization") (a.get "encoded_email")))

def recentCaller : Handler := fun a => do
  return .obj (callerColumns (← Caller.recent (a.get "authorization") (a.get "encoded_email")))

def verifiedEmail : Handler := fun a => do
  let token ← Op.ofExcept ((a.get "credentials").attr "credentials")
  return (← Caller.verifiedEmail token (a.get "encoded_email")).toJson

/-- The fields of a part of a request. -/
def requestPart (a : Arguments) (k : String) : List (String × Value) :=
  match (a.get "request").attr k with
  | .ok (.map fs) => fs
  | _ => []

def blockedEmail : Handler := fun a => do
  Op.ofExcept (Caller.checkBlocked (requestPart a "headers") (requestPart a "query"))
  return .null

def admin : Handler := fun a => do
  let user := a.get "user"
  let role ← Op.ofExcept (user.attr "role_id")
  Op.ofExcept (Caller.checkAdmin (← Op.db) (role.text?.map Id.mk))
  return user.toJson

end ReportMigration.Gateway
