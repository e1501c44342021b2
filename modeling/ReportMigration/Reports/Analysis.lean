import ReportMigration.Catalogue.Page
import ReportMigration.Deployment
/-!
Analyses of reports: the counts that an analysis finds, and what is set by hand afterwards.
-/
namespace ReportMigration

/-- The analysis as it is read back; one with a complexity outside the set cannot be. -/
def Analysis.read (a : Analysis) : Except Fault Analysis := do
  let _ ← a.complexity.mapM Coded.read
  return a

/-- What an analysis counts. -/
structure AnalysisCounts where
  datasources : Option Int := some 0
  worksheets : Option Int := some 0
  dashboards : Option Int := some 0
  calculations : Option Int := some 0
  nativeVisuals : Option Int := some 0
  customVisuals : Option Int := some 0
  parameters : Option Int := some 0
  filters : Option Int := some 0
  deriving DecidableEq

namespace AnalysisCounts

def toList (c : AnalysisCounts) : List (Option Int) :=
  [c.datasources, c.worksheets, c.dashboards, c.calculations, c.nativeVisuals, c.customVisuals,
    c.parameters, c.filters]

end AnalysisCounts

/-- The counts of an analysis. -/
def Analysis.counts (a : Analysis) : AnalysisCounts where
  datasources := a.datasourceCount
  worksheets := a.worksheetCount
  dashboards := a.dashboardCount
  calculations := a.calculationCount
  nativeVisuals := a.nativeVisuals
  customVisuals := a.customVisuals
  parameters := a.parameters
  filters := a.filters

/-- The analysis with its counts replaced. -/
def Analysis.setCounts (a : Analysis) (c : AnalysisCounts) : Analysis :=
  { a with
    datasourceCount := c.datasources
    worksheetCount := c.worksheets
    dashboardCount := c.dashboards
    calculationCount := c.calculations
    nativeVisuals := c.nativeVisuals
    customVisuals := c.customVisuals
    parameters := c.parameters
    filters := c.filters }

/-- A first analysis of a report. A count that is not given is zero. -/
def Analysis.first (id report : Id) (c : AnalysisCounts) (complexity : Option String) : Analysis :=
  let orZero : Option Int → Option Int := fun n => some (n.getD 0)
  { audit := {}
    id := id
    dashboardCount := orZero c.dashboards
    worksheetCount := orZero c.worksheets
    datasourceCount := orZero c.datasources
    calculationCount := orZero c.calculations
    manualMigrationCount := some 0
    nativeVisuals := orZero c.nativeVisuals
    customVisuals := orZero c.customVisuals
    parameters := orZero c.parameters
    filters := orZero c.filters
    migration := some "Yes"
    complexity := complexity.map Coded.ofText
    priority := none
    reportId := report }

/-- Whether a text is the value that a column shows. -/
def Coded.showsAs {α : Type} [Labelled α] (c : Option (Coded α)) (text : String) : Bool :=
  c.any fun x => x.shown = text

namespace Database

/-- The catalogue with an analysis in the place of the one with the same identifier. -/
def setAnalysis (db : Database) (a : Analysis) : Database :=
  { db with analyses := db.analyses.map fun x => if x.id = a.id then a else x }

/-- The analysis of a report, unless it is marked as deleted. -/
def analysisOf? (db : Database) (report : Option Id) : Except Fault (Option Analysis) :=
  (db.analyses.find? fun a => some a.reportId = report && !a.audit.isDeleted).mapM Analysis.read

end Database

/-- Writes the counts of a report into its analysis, or into a new one. An empty complexity leaves that
    of the analysis as it is; a new one takes it as it takes any other text. -/
def writeCounts (report : Id) (c : AnalysisCounts) (complexity : Option String) : Op Unit := do
  match (← Op.db).analyses.find? (·.reportId = report) with
  | some a =>
    let a ← Op.ofExcept a.read
    let _ ← Op.ofExcept (c.toList.mapM storable)
    let complexity := complexity.filter (!·.isEmpty)
    let same := a.counts = c && complexity.all (Coded.showsAs a.complexity)
    unless same do
      let a := a.setCounts c
      let complexity := match complexity with
        | some t => some (Coded.ofText t)
        | none => a.complexity
      Op.change (·.setAnalysis { a with complexity := complexity, audit := a.audit.touch })
  | none =>
    let id ← Op.drawId
    let _ ← Op.ofExcept (c.toList.mapM storable)
    Op.write (·.addAnalysis (.first id report c complexity))

/-- Writes the counts of a report; the answer says whether they could be written. -/
def updateCounts (report : Option Id) (c : AnalysisCounts) (complexity : Option String) :
    Op Bool := do
  match report.filter (!·.text.isEmpty) with
  | none => throw (.badValue "report_id is required")
  | some report =>
    match ← Op.attempt (Op.transaction (writeCounts report c complexity)) with
    | .ok () => return true
    | .error _ => return false

/-- Sets by hand whether a report is to be migrated; the answer says whether it has an analysis. -/
def setMigration (report : Option Id) (answer : String) : Op Bool := do
  let found := (← Op.db).analyses.any fun a => some a.reportId = report
  let answer := Text.capitalize (Text.trim answer)
  Op.change fun db =>
    { db with analyses := db.analyses.map fun a =>
        if some a.reportId = report then
          { a with migration := some answer, audit := a.audit.touch }
        else a }
  return found

/-- What is set by hand in an analysis. -/
structure AnalysisEdit where
  complexity : Option String := none
  migration : Option String := none
  priority : Option String := none

/-- The analysis after an edit, and whether it differs. -/
def Analysis.edit (a : Analysis) (e : AnalysisEdit) : Analysis × Bool :=
  let (a, c) := match e.complexity with
    | some t =>
      if Coded.showsAs a.complexity t then (a, false)
      else ({ a with complexity := some (.ofText t) }, true)
    | none => (a, false)
  let (a, m) := match e.migration with
    | some t => if a.migration = some t then (a, false) else ({ a with migration := some t }, true)
    | none => (a, false)
  let (a, p) := match e.priority with
    | some t => if a.priority = some t then (a, false) else ({ a with priority := some t }, true)
    | none => (a, false)
  (a, c || m || p)

/-- Edits the analysis of a report. A complexity outside the set is written, but cannot be read. -/
def editAnalysis (report : Option Id) (edit : Except Fault AnalysisEdit) : Op Analysis := do
  match ← Op.ofExcept ((← Op.db).analysisOf? report) with
  | none => throw (.badValue "Report not found in current session")
  | some a =>
    let (b, changed) := a.edit (← Op.ofExcept edit)
    if !changed then return a
    let b := { b with audit := b.audit.touch }
    Op.change (·.setAnalysis b)
    Op.ofExcept b.read

/-- The items of a list without those that stand further in front. -/
def distinct {α : Type} [DecidableEq α] (xs : List α) : List α :=
  xs.foldl (fun acc x => if acc.contains x then acc else acc ++ [x]) []

namespace Database

/-- The complexities that occur. -/
def complexities (db : Database) : Except Fault (List Complexity) :=
  (distinct (db.analyses.filterMap (·.complexity))).mapM Coded.read

/-- The priorities that occur. -/
def priorities (db : Database) : List String := distinct (db.analyses.filterMap (·.priority))

/-- Marks the analyses of some reports as deleted. -/
def hideAnalyses (db : Database) (reports : List Id) : Database :=
  { db with analyses := db.analyses.map fun a =>
      if reports.contains a.reportId then { a with audit := { a.audit.touch with isDeleted := true } }
      else a }

end Database

end ReportMigration
