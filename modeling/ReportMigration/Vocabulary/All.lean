import ReportMigration.Value
import ReportMigration.Vocabulary.Status
import ReportMigration.Vocabulary.Visuals
import ReportMigration.Vocabulary.Workbook
/-!
All fixed sets.
-/
namespace ReportMigration.Vocabulary

def all : List Vocabulary :=
  [fileStatus, operationStatus, serverStatus, complexityType, priority, migration, reportStatus,
    discoveryStatus, authentication, role, userStatus, datasourceTypes, serverType, importantKeys,
    complexityLevel, dashboard, datasource, generalKeys, filterValues, worksheet, elements,
    references, chartType, filterTypes, comparison, reportKeys, templateKeys, visualType, objectKeys]

/-- The set of a name. -/
def find? (name : String) : Option Vocabulary := all.find? (·.name = name)

/-- The member of a set by both their names, as a value. -/
def member (set name : String) : Option Value :=
  ((find? set).bind (·.member? name)).map fun m => .member set m.1 m.2.toJson

/-- The text of a pattern among entries. -/
def patternText? (name : String) (entries : List (String × Term)) : Option String :=
  entries.findSome? fun
    | (n, .pattern p) => if n = name then some p else none
    | _ => none

/-- The text of the pattern of a name: a pattern of some set, or a text that is used as one. -/
def pattern? (name : String) : Option String :=
  match all.findSome? fun v => patternText? name v.entries with
  | some p => some p
  | none => match references.member? name with
    | some (_, .value (.str p)) => some p
    | _ => none

end ReportMigration.Vocabulary
