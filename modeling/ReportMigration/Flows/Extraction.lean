import ReportMigration.Files.Unpacking
import ReportMigration.Storage.Provider
/-!
The extraction of a preparation flow from an uploaded file.

The upload is an archive that holds the flow as a file of its own. Uploads of the older form are
converted first, and two documents are made of the flow, its structure and an analysis; the tools for
both are given from outside. The documents go to object storage, and the answer says where. All
working files lie in `outputFolder`, which a successful extraction removes.
-/
namespace ReportMigration.Flow

/-- The folder of everything that is kept on disk for a while. -/
def storageFolder : String := "storage"

/-- The folder of working files. -/
def outputFolder : String := Path.below storageFolder "Prep_file_outputs"

/-- The name of the file with the flow. -/
def flowName : String := "flow"

/-- The fault of an upload that is no archive. -/
def notArchive : Fault := .http 400 (.str "Invalid ZIP file.")

/-- The fault of an archive without a flow. -/
def noFlow : Fault := .http 400 (.str "Invalid or empty 'flow' file.")

/-- The name of the document with the structure of a flow. -/
def structureName (stem : String) : String := stem ++ "_structured.json"

/-- The name of the document with the analysis of a flow. -/
def analysisName (stem : String) : String := stem ++ "_analysis.docx"

/-- Brings an upload of the older form into that of the newer one. -/
def convert (source target : String) : Op Unit := do
  let _ ← Op.call "convert_tfl_to_tflx" [.text source, .text target]
  Op.employ (← get).converter source target

/-- Has the documents of a flow made. -/
def document (flow target : String) : Op Unit := do
  let _ ← Op.call "save_execution_tree" [.text flow, .text target]
  Op.employ (← get).documenter flow target

/-- An upload on disk: its path, and the name it is stored under. -/
structure Upload where
  path : String
  name : String

/-- Puts an upload on disk, in the newer form. -/
def receive (name : String) (content : Content) : Op Upload := do
  let path := Path.below outputFolder name
  Op.onDisk (·.write path content)
  if Text.lower (Path.suffix (Path.lastName name)) = ".tfl" then
    let converted := Path.withSuffix path ".tflx"
    convert path converted
    return ⟨converted, Path.lastName converted⟩
  else return ⟨path, name⟩

/-- Unpacks the archive at a path to a folder, entry by entry. What was put there before an entry
    fails stays. -/
def unpack (path folder : String) : Op Unit := do
  match ← Op.ofDisk (·.read path) with
  | .archive es => es.forM fun e => Op.onDisk (·.unpackEntry folder e)
  | .text _ => throw (.failure .archive "File is not a zip file")

/-- The path of the flow below a folder, which must not be empty. -/
def findFlow (folder : String) : Op String := do
  match ((← get).disk.node? folder).bind (Node.find? flowName folder) with
  | none => throw noFlow
  | some flow =>
    match ← Op.ofDisk (·.read flow) with
    | .text "" => throw noFlow
    | _ => return flow

/-- Unpacks an upload and gives the path of its flow. -/
def unpackFlow (path : String) : Op String := do
  let folder := Path.below outputFolder "extracted_files"
  Op.onDisk (·.makeFolders folder)
  match ← (unpack path folder).attempt with
  | .ok () => findFlow folder
  | .error (.failed .archive _) => throw notArchive
  | .error f => throw f

/-- Where a document is, as answers tell it. -/
def linkTo (url : Option String) (name : String) : Json :=
  .obj [("url", .ofText? url), ("name", .str name)]

/-- Stores an upload and the documents of its flow, removes the working files and tells where the
    documents are. -/
def deliver (storage : Provider) (uploaded : Upload) : Op Json := do
  let _ ← storage.upload uploaded.path ("Prep_files/" ++ uploaded.name)
  let flow ← unpackFlow uploaded.path
  let stem := Path.stem (Path.lastName uploaded.name)
  let structurePath := Path.below outputFolder (stem ++ ".json")
  document flow structurePath
  let structureKey := "Prep_files/Structured_json/" ++ structureName stem
  let analysisKey := "Prep_files/Analysis_docx/" ++ analysisName stem
  let _ ← storage.upload structurePath structureKey
  let _ ← storage.upload (Path.withSuffix structurePath ".docx") analysisKey
  let structureUrl ← storage.signedUrl structureKey
  let analysisUrl ← storage.signedUrl analysisKey
  modify fun d => { d with disk := d.disk.clear outputFolder }
  return .obj [("message", .str "Flow extracted and uploaded successfully."),
    ("flow_json", linkTo structureUrl (structureName stem)),
    ("flow_docx", linkTo analysisUrl (analysisName stem))]

/-- Extracts the flow of an upload. -/
def extract (name : String) (content : Content) : Op Json := do
  let storage ← Provider.chosen
  Op.onDisk (·.makeFolders outputFolder)
  let uploaded ← receive name content
  deliver storage uploaded

end ReportMigration.Flow
