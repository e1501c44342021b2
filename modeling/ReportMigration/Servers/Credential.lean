import ReportMigration.Servers.Server
/-!
Credentials of servers and the sites reached with them.
-/
namespace ReportMigration

/-- A site with the credential it is reached with. -/
structure SiteEntry where
  site : Site
  credential : Option Credential

namespace Database

/-- The first credential of a server. -/
def credentialOf? (db : Database) (server : Option Id) : Except Fault (Option Credential) :=
  (db.credentialsOf server).head?.mapM Credential.read

/-- All credentials of a server, as they are read back. -/
def readCredentialsOf (db : Database) (server : Option Id) : Except Fault (List Credential) :=
  (db.credentialsOf server).mapM Credential.read

/-- The sites of a server that are not marked as deleted. -/
def sitesOf (db : Database) (server : Option Id) : List Site :=
  db.sites.filter fun s => !s.audit.isDeleted &&
    (db.credentialsOf server).any fun c => c.id = s.credentialsId

/-- How many sites of a server are not marked as deleted. -/
def siteTotal (db : Database) (server : Option Id) : Nat :=
  db.sites.countP fun s => !s.audit.isDeleted &&
    db.credentials.any fun c => c.id = s.credentialsId && some c.serverId = server

/-- A page of sites with their credentials, those changed last first. -/
def sitePage (db : Database) (sites : List Site) (p : Page) : Except Fault (List SiteEntry) := do
  (← p.of (descending (·.audit.updatedAt.micros) sites)).mapM fun s => do
    return ⟨s, ← (db.findCredential? s.credentialsId).mapM Credential.read⟩

/-- Removes sites; none of them may hold a project. -/
def removeSites (db : Database) (gone : Site → Bool) : Except Fault Database := do
  resolved <| db.projects.all fun p =>
    p.siteId.all fun i => !(db.sites.any fun s => s.id = i && gone s)
  return { db with sites := db.sites.filter fun s => !gone s }

/-- Removes the credentials of a server; none of them may have sites. -/
def removeCredentials (db : Database) (server : Option Id) : Except Fault Database := do
  let gone := db.credentialsOf server
  if db.sites.any fun s => gone.any fun c => c.id = s.credentialsId then
    throw (.violated (.missing "tableau_site_details" "credentials_id"))
  return { db with credentials := db.credentials.filter fun c => some c.serverId ≠ server }

end Database

/-- What is given for a new credential. -/
structure CredentialForm where
  serverId : Option Id
  authType : Option String
  username : Option String := none
  password : Option String := none
  tokenName : Option String := none
  tokenSecret : Option String := none
  createdBy : Option Id := none
  updatedBy : Option Id := none

/-- Adds a credential. -/
def addCredential (form : CredentialForm) : Op Credential := do
  let id ← Op.drawId
  let credential ← Op.transaction do
    let table := "tableau_server_credentials"
    let credential : Credential ← Op.ofExcept do
      return {
        audit := { createdBy := form.createdBy, updatedBy := form.updatedBy }
        id := id
        serverId := ← required table "server_id" form.serverId
        tokenName := form.tokenName
        tokenSecret := form.tokenSecret
        username := form.username
        password := form.password
        authType := .ofText (← required table "server_auth_type" form.authType) }
    Op.write (·.addCredential credential)
    return credential
  Op.ofExcept credential.read

/-- Removes the credentials of a server. -/
def removeCredentials (server : Option Id) : Op Unit := do
  let _ ← Op.ofExcept ((← Op.db).readCredentialsOf server)
  Op.write (·.removeCredentials server)

/-- What is given for a new site. -/
structure SiteForm where
  id : Option Id
  credentialsId : Option Id
  siteName : Option String
  siteId : Option Id
  createdBy : Option Id := none
  updatedBy : Option Id := none

/-- Adds a site. -/
def addSite (form : SiteForm) : Op Site := Op.transaction do
  let id ← match form.id with
    | some id => pure id
    | none => Op.drawId
  let table := "tableau_site_details"
  let site : Site ← Op.ofExcept do
    return {
      audit := { createdBy := form.createdBy, updatedBy := form.updatedBy }
      id := id
      credentialsId := ← required table "credentials_id" form.credentialsId
      siteName := ← required table "site_name" form.siteName
      siteId := ← required table "site_id" form.siteId }
  Op.write (·.addSite site)
  return site

/-- Removes the sites reached with some credentials. -/
def removeSites (credentials : List Id) : Op Unit :=
  Op.write (·.removeSites fun s => credentials.contains s.credentialsId)

end ReportMigration
