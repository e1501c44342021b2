import ReportMigration.Deployment
import ReportMigration.Secret
/-!
Tokens kept for servers whose use statistics are read later. The secret of a token is kept in
written form only.
-/
namespace ReportMigration

namespace Database

/-- The first token kept for a server. -/
def staleCredential? (db : Database) (server : Option Id) : Option StaleCredential :=
  db.staleCredentials.find? fun s => some s.serverId = server

/-- Replaces the token with the identifier of `s`. -/
def setStaleCredential (db : Database) (s : StaleCredential) : Database :=
  { db with staleCredentials := db.staleCredentials.map fun x => if x.id = s.id then s else x }

/-- Names the site of the first token kept for a server. -/
def nameStaleSite (db : Database) (server : Option Id) (siteName : Option String) : Database :=
  match db.staleCredential? server with
  | none => db
  | some s =>
    { db with staleCredentials := db.staleCredentials.map fun x =>
        if x.id = s.id then { x with siteName := siteName } else x }

/-- Removes the tokens kept for a server. -/
def removeStaleCredentials (db : Database) (server : Option Id) : Database :=
  { db with staleCredentials := db.staleCredentials.filter fun s => some s.serverId ≠ server }

end Database

/-- The first token kept for a server with its secret read back, unless the secret is empty. The
    secret is read back into the row itself, which is never committed. -/
def openStaleCredential (server : Option Id) : Op (Option StaleCredential) := Op.discarding do
  match (← Op.db).staleCredential? server with
  | none => return none
  | some s =>
    if s.tokenSecret.isEmpty then return none
    let secret ← Op.ofExcept (Secret.decode s.tokenSecret)
    let opened := { s with tokenSecret := secret }
    Op.change (·.setStaleCredential opened)
    return some opened

/-- What is given for a token. -/
structure StaleCredentialForm where
  id : Option Id
  serverId : Option Id
  tokenName : Option String
  tokenSecret : Option String
  serverUrl : Option String
  siteName : Option String

/-- The token that a form asks for, with its secret in written form. -/
def StaleCredentialForm.toToken (form : StaleCredentialForm) (secret : String) (id : Id) :
    Except Fault StaleCredential := do
  let table := "stale_credentials"
  return {
    id := id
    serverId := ← required table "server_id" form.serverId
    tokenName := ← required table "pat_name" form.tokenName
    tokenSecret := Secret.encode secret
    serverUrl := ← required table "server_url" form.serverUrl
    siteName := form.siteName }

/-- Keeps a token for a server. -/
def addStaleCredential (form : StaleCredentialForm) : Op StaleCredential := do
  match form.tokenSecret with
  | none => throw (.noAttribute "NoneType" "encode")
  | some secret => Op.transaction do
    let id ← match form.id with
      | some id => pure id
      | none => Op.drawId
    let token ← Op.ofExcept (form.toToken secret id)
    Op.write (·.addStaleCredential token)
    return token

end ReportMigration
