import ReportMigration.Catalogue.Page
import ReportMigration.Reports.VisualRequest
import ReportMigration.Vocabulary.All
import ReportMigration.Wording.All
import ReportMigration.Workload.Basic
/-!
Workloads on fixed sets and wording: going through all members of all sets, and filling templates.
-/
namespace ReportMigration.Workload

/-- The members of a set: the entries that are no aliases. -/
def membersOf (v : Vocabulary) : List (String × Term) :=
  v.entries.filter fun e => v.canonical e.2 = e.1

/-- The lengths of the names and values of a set, added up. -/
def extent (v : Vocabulary) : Nat :=
  ((membersOf v).map fun m => m.1.length + m.2.display.length).foldr (· + ·) 0

/-- The sets of words; the patterns of references are none. -/
def wordSets : List Vocabulary := Vocabulary.all.filter (·.name ≠ Vocabulary.references.name)

/-- The heading under which the columns of a table are listed. -/
def columnsHeading : String := "Columns and Data Types"

/-- The sheet of a small request for a visual, which takes part in each round. -/
def requestedSheet : Except Fault String := do
  let request ← VisualRequest.make [("worksheet_name", .str "ws"), ("visual_type", .str "bar")]
  return ((Json.getField? "worksheet_name" request).getD .null).display

/-- The extent of all sets, of a request and of a heading. -/
def vocabularyExtent : Except Fault Nat := do
  return (wordSets.map extent).foldr (· + ·) 0 + (← requestedSheet).length + columnsHeading.length

def vocabularies : Workload where
  name := "enums_catalogue"
  parameter := "n_rounds"
  run n := do
    let k ← Op.ofExcept vocabularyExtent
    return .int (n.toNat * k)

/-- What stands in a hole: a size has three characters, all else one. -/
def filler (hole : String) : Json :=
  if hole = "width" || hole = "height" then .str "100" else .str "v"

/-- The length of a template with all holes filled. -/
def filledLength (c : Constant) : Except Fault Json := do
  let holes := match c with
    | .text s => (Template.read s).holes
    | _ => []
  return .int (← c.fill (holes.map fun h => (h, filler h))).length

/-- The templates of visuals, in the order of their names. -/
def visualTemplates : List Constant :=
  let texts := Wording.templates.entries.filter fun
    | (_, .text _) => true
    | _ => false
  (ascending (·.1) texts).map (·.2)

/-- The templates of a model and of queries that are filled. -/
def modelTemplates : List String :=
  ["PARTITION_BLOCK_EXCEL", "PARTITION_BLOCK_CSV", "PARTITION_BLOCK_HYPER", "PARTITION_BLOCK_SQL",
    "PARTITION_BLOCK_CUSTOM_SQL", "PARTITION_BLOCK_SNOWFLAKE", "PARTITION_BLOCK_DATABRICKS",
    "PARTITION_BLOCK_SQLPROXY", "PARTITION_BLOCK_CALCULATIONS", "LOCAL_DATE_TEMPLATE",
    "NUMERIC_PARAMETER_TEMPLATE", "FIELD_PARAMETER_TEMPLATE", "LIST_PARAMETER_TEMPLATE",
    "ANY_PARAMETER_TEMPLATE", "MODEL_TMDL_HEADER", "AGGREGATION_SELECTION",
    "DATE_HEIRARCHY_SELECTION", "COLUMN_SELECTION", "MEASURE_COLUMN_SELECTION",
    "GROUPED_SELECTION", "AGGREGATION_FILTER", "COLUMN_FILTER", "DATE_HIERARCHY_FILTER",
    "CACHED_DISPLAY_NAME"]

/-- The places in storage that are filled. -/
def storagePlaces : List String :=
  ["S3_BASE_PATH", "REPORT_PATH", "ANALYZED_OUTPUTS_PATH", "MIGRATE_OUTPUTS_PATH"]

/-- A part of a constant that is an object of objects or of values. -/
def partOf (name : String) (keys : List String) : Except Fault Json := do
  let v := (← Wording.constants.get name).toJson
  return keys.foldl (fun v k => (v.get? k).getD .null) v

/-- One filling of all templates, and a look at some tables. -/
def filled : Except Fault (List Json) := do
  let visuals ← visualTemplates.mapM filledLength
  let models ← modelTemplates.mapM fun n => do filledLength (← Wording.constants.get n)
  let places ← storagePlaces.mapM fun n => do
    return Json.str (← (← Wording.constants.get n).fill
      [("organization_name", .str "o"), ("s3_report_id", .str "r")])
  let color ← partOf "COLOR_PALETTE_DATA" ["blue_10_0", "Mid"]
  let month ← partOf "MONTH_NUMBER_TO_NAME" ["3"]
  let dot := ((Vocabulary.references.member? "DOT").map (·.2.toJson)).getD .null
  return visuals ++ models ++ places ++ [color, month, dot]

def templates : Workload where
  name := "constants_and_templates"
  parameter := "n_renders"
  run n := do return .arr (← rounds n fun _ => Op.ofExcept filled)

end ReportMigration.Workload
