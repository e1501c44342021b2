import ReportMigration.Text.Quoted
/-!
The folders on the local disk in which a report is worked on. They are named by the first six
characters of its identifier.
-/
namespace ReportMigration.WorkFolder

/-- The short form of an identifier. -/
def short (id : Json) : String := .ofList (id.display.toList.take 6)

def base (id : Json) : String := "./storage/" ++ short id

/-- Where a report is analysed. -/
def analysis (id : Json) : String := base id ++ "/ansys"

/-- Where the calculations of a report are converted. -/
def conversion (id : Json) : String := base id ++ "/dax"

/-- Where a report is migrated. -/
def migration (id : Json) : String := "./storage/mig/" ++ short id

end ReportMigration.WorkFolder
