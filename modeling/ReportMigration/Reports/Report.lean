import ReportMigration.Deployment
import ReportMigration.Projects.Access
import ReportMigration.Time.Iso
/-!
Reports: adding, looking up and renaming them, and the figures on their use.
-/
namespace ReportMigration

/-- What is given for a new report. -/
structure ReportForm where
  id : Option Id
  name : Option String
  reportId : Option Id
  projectId : Option Id
  reportType : Option String := none
  viewCount : Option Int := none
  createdBy : Option Id := none
  updatedBy : Option Id := none
  createdAt : Option Timestamp := none
  updatedAt : Option Timestamp := none
  sourceCreatedAt : Option Timestamp := none
  sourceUpdatedAt : Option Timestamp := none

/-- The time that a text gives, in which a capital Z stands for the zone at zero. -/
def Time.readZulu? (s : String) : Option Timestamp := Time.read? (s.replace "Z" "+00:00")

/-- The row of a form with an identifier, a name, a name in object storage and a project. -/
def ReportForm.row (form : ReportForm) (id : Id) (name : String) (reportId project : Id) :
    Report where
  id := id
  name := name
  reportId := reportId
  projectId := project
  reportType := form.reportType
  analyzed := ⟨some false, none⟩
  converted := ⟨some false, none⟩
  migrated := ⟨some false, none⟩
  semantic := ⟨some false, none⟩
  unitTested := some false
  uatTested := some false
  deployed := some false
  isScoped := some false
  semanticType := none
  hasSemanticModel := some false
  viewCount := some (form.viewCount.getD 0)
  userCount := some 0
  sourceCreatedAt := form.sourceCreatedAt
  sourceUpdatedAt := form.sourceUpdatedAt
  lastViewed := none
  createdAt := form.createdAt.getD .epoch
  updatedAt := form.updatedAt.getD .epoch
  createdBy := form.createdBy
  updatedBy := form.updatedBy
  isDeleted := some false
  status := none

/-- The report that a form makes. -/
def ReportForm.toReport (form : ReportForm) (id : Id) : Except Fault Report := do
  storable form.viewCount
  return form.row id (← required "report_details" "name" form.name)
    (← required "report_details" "report_id" form.reportId)
    (← required "report_details" "project_id" form.projectId)

/-- Adds a report. -/
def addReport (form : ReportForm) : Op Report := Op.transaction do
  let id ← match form.id with
    | some id => pure id
    | none => Op.drawId
  let report ← Op.ofExcept (form.toReport id)
  Op.write (·.addReport report)
  return report

namespace Database

/-- The report with an identifier. -/
def report? (db : Database) (i : Option Id) : Except Fault (Option Report) :=
  (db.reports.find? fun r => some r.id = i).mapM Report.read

/-- The catalogue with a report in the place of the one with the same identifier. -/
def setReport (db : Database) (r : Report) : Database :=
  { db with reports := db.reports.map fun x => if x.id = r.id then r else x }

/-- The identifiers of the reports of some projects. -/
def reportIdsOf (db : Database) (projects : List Id) : List Id :=
  (db.reports.filter fun r => projects.contains r.projectId).map (·.id)

/-- Whether a project has a report of a name that is not marked as deleted. -/
def hasReportNamed (db : Database) (name : Option String) (project : Option Id) : Bool :=
  db.reports.any fun r =>
    some r.name = name && some r.projectId = project && r.isDeleted = some false

end Database

/-- Renames a report, if there is one. -/
def renameReport (report : Option Id) (name : Option String) : Op (Option Report) := do
  match ← Op.ofExcept ((← Op.db).report? report) with
  | none => return none
  | some r =>
    if name = some r.name then return some r
    let name ← Op.ofExcept (required "report_details" "name" name)
    let r := { r with name := name, updatedAt := .epoch }
    Op.change (·.setReport r)
    return some r

/-! ## Use -/

namespace Database

/-- The reports that go by a name in object storage. -/
def reportsStoredAs (db : Database) (i : Id) : List Report := db.reports.filter (·.reportId = i)

/-- Changes the reports that go by a name in object storage. -/
def updateStoredAs (db : Database) (i : Id) (f : Report → Report) : Database :=
  { db with reports := db.reports.map fun r =>
      if r.reportId = i then { f r with updatedAt := .epoch } else r }

end Database

/-- An entry of an item of an update. An item that is no map has none. -/
def Value.entry (v : Value) (k : String) : Except Fault Value :=
  match v with
  | .map fs => .ok ((Value.field? k fs).getD .null)
  | v => .error (.noAttribute v.typeName "get")

/-- The whole number that a value is. A truth value is one or zero. Other numbers are none, though a column
    may take them. -/
def Value.whole? : Value → Option Int
  | .int n => some n
  | .bool b => some (if b then 1 else 0)
  | _ => none

/-- The time that a value is. -/
def Value.time? : Value → Option Timestamp
  | .time t => some t
  | _ => none

/-- A figure on the use of reports: the entry of an item that gives it, and the column it goes to. -/
structure UseFigure (α : Type) where
  entry : String
  /-- What the column takes of a value, if it takes it. -/
  read? : Value → Option α
  /-- Whether the database has room for it. -/
  check : α → Except Fault Unit
  put : α → Report → Report
  /-- The row is found as before, -/
  put_keys : ∀ a r, (put a r).id = r.id ∧ (put a r).projectId = r.projectId ∧
    (put a r).reportId = r.reportId := by intros; exact ⟨rfl, rfl, rfl⟩
  /-- and nothing but the time of its change tells of an earlier figure. -/
  put_put : ∀ a b r t, { put b { put a r with updatedAt := t } with updatedAt := t } =
    { put b r with updatedAt := t } := by intros; rfl

namespace UseFigure

/-- When a report was last viewed. -/
def lastViewed : UseFigure Timestamp where
  entry := "last_viewed"
  read? := Value.time?
  check _ := .ok ()
  put t r := { r with lastViewed := some t }

/-- How many users a report has. -/
def userCount : UseFigure Int where
  entry := "tableau_usercount"
  read? := Value.whole?
  check n := storable n
  put n r := { r with userCount := some n }

variable {α : Type}

/-- Writes a figure to the reports that go by a name in object storage, and answers how many they
    are. -/
def write (f : UseFigure α) (i : Id) (a : α) : Op Nat := do
  Op.ofExcept (f.check a)
  let count := ((← Op.db).reportsStoredAs i).length
  Op.change (·.updateStoredAs i (f.put a))
  return count

/-- Notes the figure that an item gives for the reports it names. An item that names none is passed
    over, and so is what the column does not take. What a column of whole numbers makes of a number that is
    none, or of a text, is left out. -/
def note (f : UseFigure α) (item : Value) : Op Nat := do
  let report ← Op.ofExcept (item.entry "report_id")
  let given ← Op.ofExcept (item.entry f.entry)
  match if report.isTruthy then f.read? given else none with
  | none => return 0
  | some a => f.write ⟨report.display⟩ a

/-- Notes the figures of some items, and answers how many rows were written. -/
def noteAll (f : UseFigure α) : List Value → Op Nat
  | [] => return 0
  | item :: items => do
    let count ← f.note item
    return count + (← f.noteAll items)

end UseFigure

/-- Writes a batch of times of last viewing, all or none of it. -/
def updateLastViewed (items : List Value) : Op Nat :=
  Op.transaction (UseFigure.lastViewed.noteAll items)

/-- Writes a batch of user numbers, all or none of it. -/
def updateUserCounts (items : List Value) : Op Nat :=
  Op.transaction (UseFigure.userCount.noteAll items)

end ReportMigration
