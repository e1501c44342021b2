import ReportMigration.Projects.Folder
import ReportMigration.Projects.Listing
import ReportMigration.Reports.Report
import ReportMigration.Storage.Archive
/-!
Upload of a folder tree: every folder becomes a project below that of its enclosing folder, and every
workbook in it a report, whose file goes to object storage.

Clashes of names are looked for in the catalogue as it was before the upload. If anything fails, the
catalogue stays as it was, but files that were stored stay stored.
-/
namespace ReportMigration

namespace WorkbookName

/-- The extensions of workbooks. -/
def extensions : List (List Char) := [['.', 't', 'w', 'b', 'x'], ['.', 't', 'w', 'b']]

/-- A name in two parts: what is before the extension of a workbook, in capital or small letters,
    and the extension, which is empty if there is none. -/
def split (cs : List Char) : List Char × List Char :=
  match extensions.find? fun e => e.isSuffixOf (cs.map Text.foldAsciiChar) with
  | some e => (cs.take (cs.length - e.length), cs.drop (cs.length - e.length))
  | none => (cs, [])

/-- The name under which a workbook is kept: blanks around it and before its extension are left
    out, and all others are single spaces. -/
def normalizeList (cs : List Char) : List Char :=
  let (stem, ext) := split (Text.dropAround Text.isBlank cs)
  Text.squeeze ((if ext.isEmpty then stem else Text.dropTrailing Text.isBlank stem) ++ ext)

/-- The name under which a workbook is kept. -/
def normalize (name : String) : String := .ofList (normalizeList name.toList)

/-- Whether a file is a workbook, by the end of its name. -/
def isWorkbook (name : String) : Bool := name.endsWith ".twb" || name.endsWith ".twbx"

/-- The type of a workbook, if its name has an extension. -/
def reportType? (name : String) : Option String :=
  let ext := (Text.lower (Path.stemAndExtension name).2).replace "." ""
  if ext = "twb" || ext = "twbx" then some ext else none

end WorkbookName

/-- An upload. -/
structure Upload where
  /-- The catalogue before the upload. -/
  before : Database
  userId : Id
  orgName : String
  /-- The provider as the caller names it. -/
  provider : String
  /-- Which service the files go to. -/
  storage : SettingsKind
  /-- Whether packed workbooks are unpacked as well. -/
  extracts : Bool

namespace Upload

/-- The form of the project of a folder. -/
def folderForm (u : Upload) (parent : Option Id) (name : String) (id : Id) : ProjectForm :=
  { id := some id, name := some name, parentId := parent, userId := some u.userId,
    createdBy := some u.userId, updatedBy := some u.userId, isUpload := true }

/-- Makes the project of a folder. -/
def addFolder (u : Upload) (parent : Option Id) (name : String) : Op Project := do
  if u.before.hasProjectNamed (some name) u.userId parent none then
    throw (.http 409 (.str ("Project '" ++ name ++ "' already exists.")))
  let id ← Op.drawId
  addProject (u.folderForm parent name id)

/-- The key of a report's file in object storage. -/
def fileKey (orgName : String) (report : Id) (name : String) : String :=
  "BI-Portfinal/" ++ orgName ++ "/" ++ report.text ++ "/tableau_file/" ++ name

/-- Stores a file; a failure of storage is passed over. -/
def storeFile (u : Upload) (path key : String) : Op Unit := do
  if u.provider = "azure" then
    match u.storage with
    | .container => let _ ← Container.uploadFile path key
    | k => throw (.noAttribute k.name "upload_to_blob")
  else
    match u.storage with
    | .bucket => let _ ← Bucket.uploadFile path key
    | k => throw (.noAttribute k.name "upload_to_s3")

/-- The form of the report of a workbook, under the name it is kept by. -/
def reportForm (u : Upload) (project : Id) (kept : String) (id reportId : Id) : ReportForm :=
  { id := some id, name := some kept, reportId := some reportId, projectId := some project,
    createdBy := some u.userId, updatedBy := some u.userId,
    reportType := WorkbookName.reportType? kept }

/-- Makes the report of a workbook, under the name it is kept by. -/
def enterReport (u : Upload) (project : Id) (kept : String) : Op Report := do
  let id ← Op.drawId
  let reportId ← Op.drawId
  addReport (u.reportForm project kept id reportId)

/-- Makes the report of a workbook and stores its file. -/
def addWorkbook (u : Upload) (project : Id) (name path rel : String) : Op Unit := do
  if !WorkbookName.isWorkbook name then
    throw (.http 400 (.str ("Invalid file '" ++ rel ++ "': only .twb/.twbx files allowed.")))
  let kept := WorkbookName.normalize name
  if u.before.hasReportNamed (some kept) (some project) then return ()
  let report ← u.enterReport project kept
  u.storeFile path (fileKey u.orgName report.reportId kept)
  if name.endsWith ".twbx" && u.extracts then
    Op.record ⟨"twbx_extractor", [.text name, .text u.orgName, .text report.reportId.text], []⟩

mutual

/-- Uploads what a folder holds into the project of the folder. -/
def addEntries (u : Upload) (project : Id) (path rel : String) : List (String × Node) → Op Unit
  | [] => return ()
  | (name, node) :: rest => do
    let here := Path.join path name
    let rel' := if rel.isEmpty then name else Path.join rel name
    addNode u project name here rel' node
    addEntries u project path rel rest

/-- Uploads a file or folder. -/
def addNode (u : Upload) (project : Id) (name path rel : String) : Node → Op Unit
  | .file _ => u.addWorkbook project name path rel
  | .folder entries => do
    let p ← u.addFolder (some project) name
    addEntries u p.id path rel entries

end

/-- Uploads a folder as the project of a name below a parent. -/
def run (u : Upload) (folder name : String) (parent : Option Id) : Op Unit := Op.transaction do
  let p ← u.addFolder parent name
  let entries ← Op.ofDisk (·.list folder)
  u.addEntries p.id folder "" entries

end Upload

/-- Uploads an unpacked archive; its project is named after the archive. -/
def uploadArchive (folder archive : String) (parent : Option Id) (user : Id) (orgName : String)
    (provider : String) (storage : SettingsKind) (extracts : Bool) : Op Unit := do
  let u : Upload := ⟨← Op.db, user, orgName, provider, storage, extracts⟩
  u.run folder (Path.stemAndExtension archive).1 parent

end ReportMigration
