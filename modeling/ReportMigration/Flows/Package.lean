import ReportMigration.Flows.Extraction
import ReportMigration.Json.Reader
import ReportMigration.Settings
import ReportMigration.Text.Lines
/-!
The package that a preparation flow is turned into.

A package is a copy of a template in which another service has put the queries for the flow. The
queries come level by level from a further service. The package is named after the flow: `baseName`
recovers its name from that of the document with its structure.
-/
namespace ReportMigration.Flow

/-- What the names of documents with the structure of a flow have after that of the flow. -/
def marker : List Char := "_structured".toList

/-- The characters before the first occurrence of `w`, or all if there is none. -/
def before (w : List Char) : List Char → List Char
  | [] => []
  | c :: cs => if w.isPrefixOf (c :: cs) then [] else c :: before w cs

/-- The name of a flow, from the name of the document with its structure. -/
def baseName (name : String) : String := .ofList (before marker name.toList)

/-- The key of the package of a flow. -/
def packageKey (base : String) : String := "Prep_files/power_query/" ++ base ++ ".zip"

/-- The name at the end of a path that is given as a value. -/
def documentName : Value → Except Fault String
  | .text s => .ok (Path.lastName s)
  | v => .error <| .wrongType
      ("expected str, bytes or os.PathLike object, not " ++ v.typeName)

/-- The two parts of a level: its name and its queries. -/
def levelParts (v : Value) : Except Fault (Value × Value) :=
  match v.elements with
  | .ok [name, code] => .ok (name, code)
  | .ok xs =>
    if xs.length < 2 then
      .error (.badValue
        ("not enough values to unpack (expected 2, got " ++ toString xs.length ++ ")"))
    else .error (.badValue "too many values to unpack (expected 2)")
  | .error _ => .error (.wrongType ("cannot unpack non-iterable " ++ v.typeName ++ " object"))

/-- The text of queries. -/
def codeText : Value → Except Fault String
  | .text s => .ok s
  | .list _ => .error (.wrongType "can only concatenate list (not \"str\") to list")
  | .reply .. => .error (.wrongType "can only concatenate tuple (not \"str\") to tuple")
  | v => .error <| .wrongType
      ("unsupported operand type(s) for +: '" ++ v.typeName ++ "' and 'str'")

/-- The queries of a level under a heading. -/
def levelText (v : Value) : Except Fault String := do
  let (name, code) ← levelParts v
  return "// ===== " ++ name.display ++ " =====\n" ++ (← codeText code) ++ "\n\n"

/-- The queries of all levels. -/
def levelsText (levels : Value) : Except Fault String := do
  return String.join (← (← levels.elements).mapM levelText)

/-- The value in a local file. -/
def readStructure (path : String) : Op Json := do
  let c ← Op.ofDisk (·.read path)
  let t := Text.unifyLines (← Op.ofExcept c.decoded)
  Op.ofExcept ((Json.read t).mapError fun e => .failure .jsonText (e.message t))

/-- The folder of the package. -/
def packageFolder : String := "powerbi_structure"

/-- Fetches the template, and has the queries for a flow put in it; the document with the structure of
    the flow is kept by `name` meanwhile. -/
def assemble (storage : Provider) (document : Value) (name : String) : Op Unit := do
  let structureFolder := Path.below outputFolder "Structured_json"
  let structurePath := Path.below structureFolder name
  let queryFolder := Path.below outputFolder "Power_query"
  let queryPath := Path.below queryFolder name
  let folder := Path.below storageFolder packageFolder
  let template := Path.withSuffix folder ".zip"
  Op.onDisk (·.makeFolders structureFolder)
  Op.onDisk (·.makeFolders queryFolder)
  let key ← Op.call "build_s3_key" [.text "Prep_files/Structured_json", document]
  storage.download key.display structurePath
  storage.download "Prep_files/powerbi/Superstore_prep.zip" template
  unpack template folder
  let structure_ ← readStructure structurePath
  let levels ← Op.call "generate_power_query_blocks" [.ofJson structure_]
  let queries ← Op.ofExcept (levelsText levels)
  Op.onDisk (·.write queryPath (.text queries))
  let sources ← Op.call "parse_level_names" [levels]
  let columns ← Op.call "build_tableau_lookup" [sources, .settings SettingsKind.source.name]
  let _ ← Op.call "update_tmdl_files" [.text folder, .text queryPath, columns]

/-- Packs the template, stores the package of a flow and tells where it is. -/
def send (storage : Provider) (base : String) : Op Json := do
  let files := (← get).disk.textsBelow (Path.below storageFolder packageFolder) packageFolder
  Op.onDisk (·.write (base ++ ".zip") (.archive files))
  let _ ← storage.upload (base ++ ".zip") (packageKey base)
  let url ← storage.signedUrl (packageKey base)
  modify fun d => { d with disk := d.disk.clear storageFolder }
  let provider ← Op.providerName
  return .obj
    [("message", .str ("Updated Power BI zip uploaded to " ++ provider.map Char.toUpper ++
        " storage")),
      ("file_name", .str base), ("presigned_url", .ofText? url)]

/-- Makes the package of a flow and gives where it is. -/
def makePackage (request : Value) : Op Json := do
  let storage ← Provider.chosen
  let document ← Op.ofExcept (request.attr "prep_flow_file")
  let name ← Op.ofExcept (documentName document)
  assemble storage document name
  send storage (baseName name)

/-- Makes the package of a flow; any fault is reported with its text. -/
def package (request : Value) : Op Json := do
  match ← (makePackage request).attempt with
  | .ok v => return v
  | .error f => throw (.http 500 (.str f.text))

end ReportMigration.Flow
