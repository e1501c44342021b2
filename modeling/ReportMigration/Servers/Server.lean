import ReportMigration.Catalogue.Page
import ReportMigration.Deployment
/-!
Servers of an organisation: listing, looking up, adding, and switching on or off.
-/
namespace ReportMigration

/-- The server as it is read back; one with a status or type outside the set cannot be. -/
def Server.read (s : Server) : Except Fault Server := do
  let _ ← s.status.read
  let _ ← s.type.read
  return s

/-- The credential as it is read back. -/
def Credential.read (c : Credential) : Except Fault Credential := do
  let _ ← c.authType.read
  return c

/-- A server with its credentials. -/
structure ServerEntry where
  server : Server
  credentials : List Credential

namespace Database

/-- The servers of an organisation that are not marked as deleted. -/
def serversOf (db : Database) (organization : Id) : List Server :=
  db.servers.filter fun s => s.organizationId = organization && !s.audit.isDeleted

/-- Those of them that are in use. -/
def activeServersOf (db : Database) (organization : Id) : List Server :=
  (db.serversOf organization).filter fun s => s.status.stored = "ACTIVE"

/-- How many servers of an organisation are not marked as deleted. -/
def serverTotal (db : Database) (organization : Id) : Nat :=
  db.servers.countP fun s => s.organizationId = organization && !s.audit.isDeleted

/-- How many of them are in use. -/
def activeServerTotal (db : Database) (organization : Id) : Nat :=
  db.servers.countP fun s =>
    s.organizationId = organization && !s.audit.isDeleted && s.status.stored = "ACTIVE"

/-- The credentials of a server. -/
def credentialsOf (db : Database) (server : Option Id) : List Credential :=
  db.credentials.filter fun c => some c.serverId = server

/-- A page of servers, those changed last first. -/
def serverPage (servers : List Server) (p : Page) : Except Fault (List Server) := do
  (← p.of (descending (·.audit.updatedAt.micros) servers)).mapM Server.read

/-- A page of servers with their credentials. -/
def serverEntryPage (db : Database) (servers : List Server) (p : Page) :
    Except Fault (List ServerEntry) := do
  (← p.of (descending (·.audit.updatedAt.micros) servers)).mapM fun s => do
    return ⟨← s.read, ← (db.credentialsOf s.id).mapM Credential.read⟩

/-- The server with an identifier, unless it is marked as deleted. -/
def server? (db : Database) (i : Option Id) : Except Fault (Option Server) :=
  (db.servers.find? fun s => some s.id = i && !s.audit.isDeleted).mapM Server.read

/-- A server of an organisation with a name or an address. -/
def serverNamed? (db : Database) (organization : Id) (name url : Option String) :
    Except Fault (Option Server) :=
  ((db.serversOf organization).find? fun s =>
    some s.name = name || some s.serverUrl = url).mapM Server.read

end Database

/-- What is given for a new server. -/
structure ServerForm where
  organizationId : Option Id
  userId : Option Id
  name : Option String
  serverUrl : Option String
  type : Option String
  createdBy : Option Id := none
  updatedBy : Option Id := none

/-- Adds a server, which is in use from then on. -/
def addServer (form : ServerForm) : Op Id := do
  let id ← Op.drawId
  Op.transaction do
    let table := "tableau_server_details"
    let server : Server ← Op.ofExcept do
      return {
        audit := { createdBy := form.createdBy, updatedBy := form.updatedBy }
        id := id
        organizationId := ← required table "organization_id" form.organizationId
        userId := ← required table "user_id" form.userId
        name := ← required table "name" form.name
        serverUrl := ← required table "server_url" form.serverUrl
        status := .known .active
        type := .ofText (← required table "type" form.type)
        reportCount := 0
        projectCount := 0
        siteCount := 0 }
    Op.write (·.addServer server)
  return id

/-- Sets the status of a server, which counts as a change even if it is the same. -/
def setServerStatus (server : Option Id) (status : Value) : Op Unit := do
  match ← Op.ofExcept ((← Op.db).server? server) with
  | none => throw (.badValue "Server not found")
  | some s =>
    let status ← Op.ofExcept (status.attr "value")
    let text ← Op.ofExcept (required "tableau_server_details" "status" status.text?)
    let s := { s with status := .ofText text, audit := s.audit.touch }
    Op.change fun db => { db with servers := db.servers.map fun x => if x.id = s.id then s else x }

end ReportMigration
