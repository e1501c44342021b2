import ReportMigration.Wording.Appearance
import ReportMigration.Wording.Charts
import ReportMigration.Wording.Controls
import ReportMigration.Wording.Limits
import ReportMigration.Wording.Model
import ReportMigration.Wording.Places
import ReportMigration.Wording.Prompts
import ReportMigration.Wording.Queries
import ReportMigration.Wording.Tables
/-!
All constants, in three collections: those of the application, the templates of visuals, and the
places of what comes with it.
-/
namespace ReportMigration.Wording

/-- Constants under a common name. -/
structure Collection where
  /-- What messages call the collection. -/
  title : String
  entries : List (String × Constant)

/-- The constants of the application. -/
def constants : Collection :=
  ⟨"module 'constants'", paths ++ addresses ++ limits ++ appearance ++ queries ++ model ++ prompts⟩

/-- The templates of visuals. -/
def templates : Collection := ⟨"module 'templates'", controls ++ tables ++ charts ++ report⟩

/-- Where the files are that come with the application. -/
def supplied : Collection :=
  ⟨"type object 'PathConfig'",
    [("powerbi_structure_path", .text "demo_files/powerbi_structure"),
      ("semantic_model_path", .text "static/semantic_model_structure"),
      ("dateTable_template_path", .text "static/DateTemplate.tmdl")]⟩

/-- The constant of a name. -/
def Collection.get (c : Collection) (name : String) : Except Fault Constant :=
  match (c.entries.find? fun e => e.1 = name).map (·.2) with
  | some x => .ok x
  | none => .error (.failure .noAttribute (c.title ++ " has no attribute '" ++ name ++ "'"))

end ReportMigration.Wording
