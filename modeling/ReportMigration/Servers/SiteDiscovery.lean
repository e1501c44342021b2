import ReportMigration.Json.Reader
import ReportMigration.Json.Writer
import ReportMigration.Signature
import ReportMigration.Storage.Provider
import ReportMigration.Text.Lines
/-!
The discovery of a site: a client reads what is on a site, and a summary of it is added to the list
of summaries that object storage keeps for the server.

* `SiteDiscovery.siteData` is the summary, in which the usage of the site is the sum over its
  projects;
* `SiteDiscovery.append` adds items to a list in object storage;
* `SiteDiscovery.run` does both, and reports how it went.
-/
namespace ReportMigration

/-- A discovery of a site. -/
structure SiteDiscovery where
  serverUrl : Json
  serverId : Json
  serverTypeId : Json
  discoveryId : Json
  tokenName : Json
  tokenSecret : Json
  provider : Provider

namespace SiteDiscovery

/-- The folder of working files. -/
def localFolder : String := "static"

/-- What a discovery is given. -/
def signature : Signature where
  title := "SiteDiscoveryService.__init__"
  hasReceiver := true
  parameters :=
    [⟨"server_url", none⟩, ⟨"server_id", none⟩, ⟨"server_type_id", none⟩,
      ⟨"site_discovery_id", some .null⟩, ⟨"pat_name", some (.str "")⟩,
      ⟨"pat_secret", some (.str "")⟩]

/-- A discovery with the given fields, for which the folder of working files is made. -/
def make (fields : List (String × Json)) : Op SiteDiscovery := do
  let given ← Op.ofExcept (signature.bind [] fields)
  Op.onDisk (·.makeFolders localFolder)
  let value n := (Json.getField? n given).getD .null
  return {
    serverUrl := value "server_url"
    serverId := value "server_id"
    serverTypeId := value "server_type_id"
    discoveryId := value "site_discovery_id"
    tokenName := value "pat_name"
    tokenSecret := value "pat_secret"
    provider := ← Provider.chosen }

/-- The name of the working files. -/
def workName (s : SiteDiscovery) : String := s.serverId.display ++ "_" ++ s.serverTypeId.display

/-- The working copy of the list of summaries. -/
def localPath (s : SiteDiscovery) : String := Path.join localFolder (s.workName ++ ".json")

/-- The working copy of the list of projects. -/
def projectsPath (s : SiteDiscovery) : String :=
  Path.join localFolder (s.workName ++ "_projects.json")

/-- The list of summaries in object storage. -/
def cloudPath (s : SiteDiscovery) : String :=
  "Site_discoveries/" ++ s.serverId.display ++ ".json"

/-! ## The list in object storage -/

/-- The list that a text holds; a text that holds none counts as empty. -/
def listIn (text : String) : List Json :=
  match Json.read text with
  | .ok (.arr xs) => xs
  | _ => []

/-- The list in object storage, by way of a working copy; empty if there is none. -/
def stored (s : SiteDiscovery) (key path : String) : Op (List Json) := do
  if ← s.provider.has key then
    s.provider.download key path
    let c ← Op.ofDisk (·.read path)
    return listIn (Text.unifyLines (← Op.ofExcept c.decoded))
  else return []

/-- The seconds to wait after each failed upload. -/
def waits : List Nat := [2, 4, 8]

/-- Uploads a file after so many other attempts, again after each wait if that fails; the answer says
    whether it succeeded. -/
def uploadAgain (s : SiteDiscovery) (path key : String) (attempts : Nat) : List Nat → Op Bool
  | [] => return false
  | w :: ws => do
    if ← s.provider.upload path key attempts then return true
    Op.sleep w
    uploadAgain s path key (attempts + 1) ws

/-- Removes a file if there is one. -/
def discard (path : String) : Op Unit := do
  if (← get).disk.has path then Op.onDisk (·.remove path)

/-- Adds items to the list in object storage. -/
def append (s : SiteDiscovery) (items : Value) (key path : String) : Op Unit := do
  let earlier ← s.stored key path
  match items with
  | .list xs =>
    -- the working copy is opened before it is known whether the items have a written form
    Op.onDisk (·.write path (.text ""))
    let added ← Op.ofExcept (Value.writtenItems false xs)
    Op.onDisk (·.write path (.text (Json.pretty (.arr (earlier ++ added)))))
    let _ ← s.uploadAgain path key 0 waits
    discard path
  | v => throw (.wrongType ("can only concatenate list (not \"" ++ v.typeName ++ "\") to list"))

/-! ## The summary of a site -/

/-- A whole number in double precision, if it is not too large. -/
def inDouble (n : Int) : Except Fault Double :=
  let x := Double.ofInt n
  if x.isInfinite then .error (.failure .overflow "int too large to convert to float") else .ok x

/-- The sum of two amounts. -/
def plus : Value → Value → Except Fault Value
  | .int m, .int n => .ok (.int (m + n))
  | .int m, .bool b => .ok (.int (m + if b then 1 else 0))
  | .int m, .real y => do return .real ((← inDouble m).add y)
  | .real x, .int n => do return .real (x.add (← inDouble n))
  | .real x, .bool b => .ok (.real (x.add (.ofInt (if b then 1 else 0))))
  | .real x, .real y => .ok (.real (x.add y))
  | v, w => .error <| .wrongType
      ("unsupported operand type(s) for +=: '" ++ v.typeName ++ "' and '" ++ w.typeName ++ "'")

/-- How the usage of a project is worked out. -/
abbrev Gauge := List (String × Value) → Except Fault (List (String × Value))

/-- A project with its usage, if it is one. -/
def gauged (gauge : Gauge) : Value → Except Fault Value
  | .map fs => (gauge fs).map .map
  | v => .ok v

/-- The usage of a project. -/
def usage : Value → Except Fault Value
  | .map fs => .ok ((Value.field? "usage" fs).getD (.int 0))
  | v => .error (.noAttribute v.typeName "get")

/-- Projects with their usage, and its sum added to what was counted before. -/
def totalUsage (gauge : Gauge) (before : Value) : List Value → Except Fault (Value × List Value)
  | [] => .ok (before, [])
  | p :: ps => do
    let p ← gauged gauge p
    let (total, ps) ← totalUsage gauge (← plus before (← usage p)) ps
    return (total, p :: ps)

/-- What a client read, as the fields of a map. -/
def siteFields : Value → Except Fault (List (String × Value))
  | .map fs => .ok fs
  | .list _ => .error (.wrongType "pop expected at most 1 argument, got 2")
  | v => .error (.noAttribute v.typeName "pop")

/-- The fields of a site with other projects. -/
def withProjects (ps : List Value) (fs : List (String × Value)) : List (String × Value) :=
  match Value.field? "projects" fs with
  | some v => Value.setField "projects" (v.withElements ps) fs
  | none => fs

/-- Reads a site and gives its summary. -/
def siteData (s : SiteDiscovery) : Op Value := do
  let _ ← Op.call "TableauClient"
    [.ofJson s.serverId, .ofJson s.serverUrl, .ofJson s.tokenName, .ofJson s.tokenSecret]
  let fs ← Op.ofExcept (siteFields (← Op.call "TableauClient.get_site_data"))
  let summary := (Value.field? "project_summary" fs).getD (.list [])
  let fs := fs.filter fun f => f.1 ≠ "project_summary"
  if summary.isTruthy then
    let _ ← Op.call "CloudServerDetailsManager.update_project_summary" []
      [("cloud_server_id", .ofJson s.serverTypeId), ("summary_data", summary)]
  let projects := (Value.field? "projects" fs).getD (.list [])
  let count ← Op.ofExcept projects.size
  let _ ← Op.call "ServerDetailsManager.update_project_and_report_count" []
    [("server_id", .ofJson s.serverId), ("project_count", .int count),
      ("report_count", (Value.field? "workbooks_count" fs).getD (.int 0))]
  let gauge := (← get).gauge
  let (total, ps) ← Op.ofExcept do totalUsage gauge (.int 0) (← projects.elements)
  return .map (Value.setField "server_id" (.text s.serverId.display)
    (Value.setField "usage" total (withProjects ps fs)))

/-! ## The discovery -/

/-- Reports how far the discovery is. -/
def report (s : SiteDiscovery) (status : String) : Op Unit := do
  let _ ← Op.call "SiteDiscoveryManager.update" []
    [("id", .ofJson s.discoveryId), ("status", .text status)]

/-- The discovery up to the report that it is complete. -/
def complete (s : SiteDiscovery) : Op Unit := do
  s.report "Started"
  let site ← s.siteData
  s.append (.list [site]) s.cloudPath s.localPath
  s.report "Completed"

/-- Discovers a site; a failure is reported, and no working copy stays behind. -/
def run (s : SiteDiscovery) : Op Unit := do
  let outcome ← Op.attempt do
    match ← s.complete.attempt with
    | .ok () => return
    | .error _ => s.report "Failed"
  discard s.localPath
  Op.ofExcept outcome

end SiteDiscovery

end ReportMigration
