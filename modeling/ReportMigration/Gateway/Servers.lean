import ReportMigration.Gateway.Answer
import ReportMigration.Gateway.Arguments
import ReportMigration.Servers.Credential
import ReportMigration.Servers.SiteDiscovery
import ReportMigration.Servers.StaleCredential
/-!
Requests about servers, their credentials and sites.
-/
namespace ReportMigration.Gateway

open Answer

/-- A server with its credentials. -/
def serverEntryColumns (e : ServerEntry) : Columns :=
  e.server.toColumns ++ [("+credentials", rowSet Credential.toColumns e.credentials)]

/-- A site with its credential. -/
def siteEntryColumns (e : SiteEntry) : Columns :=
  e.site.toColumns ++ [("+credentials", row? Credential.toColumns e.credential)]

def activeServers : Handler := fun a => ask fun db => do
  return rows Server.toColumns
    (← Database.serverPage (db.activeServersOf (a.id "organization_id")) a.page)

def activeServerCount : Handler := fun a => view fun db =>
  .int (db.activeServerTotal (a.id "organization_id"))

def servers : Handler := fun a => ask fun db => do
  return rows serverEntryColumns
    (← db.serverEntryPage (db.serversOf (a.id "organization_id")) a.page)

def serverCount : Handler := fun a => view fun db =>
  .int (db.serverTotal (a.id "organization_id"))

def server : Handler := fun a => ask fun db => do
  return row? Server.toColumns (← db.server? (a.id? "server_id"))

def serverNamed : Handler := fun a => ask fun db => do
  return row? Server.toColumns
    (← db.serverNamed? (a.id "organization_id") (a.text? "name") (a.text? "server_url"))

def newServer : Handler := fun a => do
  let id ← addServer
    { organizationId := a.id? "organization_id", userId := a.id? "user_id",
      name := a.text? "name", serverUrl := a.text? "server_url", type := a.text? "server_type",
      createdBy := a.id? "created_by", updatedBy := a.id? "updated_by" }
  return .str id.text

def serverStatus : Handler := fun a => do
  setServerStatus (a.id? "server_id") (a.get "status")
  return .null

def newCredential : Handler := fun a => do
  let c ← addCredential
    { serverId := a.id? "server_id", authType := a.text? "auth_type",
      username := a.text? "username", password := a.text? "password",
      tokenName := a.text? "pat_name", tokenSecret := a.text? "pat_secret",
      createdBy := a.id? "created_by", updatedBy := a.id? "updated_by" }
  return row c.toColumns

def credential : Handler := fun a => ask fun db => do
  return row? Credential.toColumns (← db.credentialOf? (a.id? "server_id"))

def credentialId : Handler := fun a => ask fun db => do
  return .ofId? ((← db.credentialOf? (a.id? "server_id")).map (·.id))

def credentials : Handler := fun a => ask fun db => do
  return rowSet Credential.toColumns (← db.readCredentialsOf (a.id? "server_id"))

def credentialIds : Handler := fun a => ask fun db => do
  return idSet ((← db.readCredentialsOf (a.id? "server_id")).map (·.id))

def dropCredentials : Handler := fun a => do
  removeCredentials (a.id? "server_id")
  return .null

def sites : Handler := fun a => ask fun db => do
  return rows siteEntryColumns (← db.sitePage (db.sitesOf (a.id? "server_id")) a.page)

def siteCount : Handler := fun a => view fun db => .int (db.siteTotal (a.id? "server_id"))

def newSite : Handler := fun a => do
  let s ← addSite
    { id := a.id? "id", credentialsId := a.id? "credentials_id", siteName := a.text? "site_name",
      siteId := a.id? "site_id", createdBy := a.id? "created_by",
      updatedBy := a.id? "updated_by" }
  return row s.toColumns

def dropSites : Handler := fun a => do
  removeSites (a.ids "credentials_ids")
  return .null

def newStaleCredential : Handler := fun a => do
  let c ← addStaleCredential
    { id := a.id? "id", serverId := a.id? "server_id", tokenName := a.text? "pat_name",
      tokenSecret := a.text? "pat_secret", serverUrl := a.text? "server_url",
      siteName := if a.has "site_name" then a.text? "site_name" else some "" }
  return row c.toColumns

def staleCredential : Handler := fun a => do
  return row? StaleCredential.toColumns (← openStaleCredential (a.id? "server_id"))

def dropStaleCredentials : Handler := fun a => do
  Op.change (·.removeStaleCredentials (a.id? "server_id"))
  return .null

def nameStaleSite : Handler := fun a => do
  Op.change (·.nameStaleSite (a.id? "server_id") (a.text? "site_name"))
  return .null

/-! ## Discoveries -/

/-- A request to a discovery. -/
abbrev DiscoveryHandler := SiteDiscovery → Handler

def discoveryPaths : DiscoveryHandler := fun s _ =>
  return texts [s.localPath, s.cloudPath, s.projectsPath, s.provider.name]

def storedList : DiscoveryHandler := fun s a => do
  return .arr (← s.stored (a.text "object_path") (a.text "local_path"))

def uploadedAgain : DiscoveryHandler := fun s a => do
  return .bool (← s.uploadAgain (a.text "local_path") (a.text "object_path") 0 SiteDiscovery.waits)

def appended : DiscoveryHandler := fun s a => do
  s.append (a.get "data") (a.text "cloud_path") (a.text "local_path")
  return .null

def discoveredSite : DiscoveryHandler := fun s _ => do return (← s.siteData).toJson

def discovered : DiscoveryHandler := fun s _ => do
  s.run
  return .null

end ReportMigration.Gateway
