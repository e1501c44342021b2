import ReportMigration.Catalogue.Page
import ReportMigration.Deployment
/-!
The log of a report: entries of the kinds `info`, `success` and `error`, and the events that make
them.
-/
namespace ReportMigration

/-- The kinds of log entries. -/
inductive LogLevel where
  | info
  | success
  | error
  deriving DecidableEq

def LogLevel.text : LogLevel → String
  | info => "info"
  | success => "success"
  | error => "error"

/-- The texts that stand for a success. -/
def LogLevel.successTexts : List String :=
  ["success", "succeeded", "ok", "completed", "complete", "done", "SUCCESSanalysis_completed",
    "dax_calculation_completed", "migration_completed", "migrated"]

/-- The texts that stand for an error. -/
def LogLevel.errorTexts : List String :=
  ["error", "failure", "failed", "analysis_failed", "dax_calculation_failed"]

/-- The kind that a text stands for, in capital or small letters; any other text stands for
    information. -/
def LogLevel.ofText (s : String) : LogLevel :=
  let s := Text.lower (Text.trim s)
  if successTexts.contains s then success
  else if errorTexts.contains s then error
  else info

/-- The kind that a value stands for. -/
def LogLevel.ofJson (v : Json) : LogLevel := if v.isTruthy then ofText v.display else info

/-- What is done with a report. -/
inductive Activity where
  | migration
  | conversion
  | analysis
  | semanticModel

/-- What happens in an activity. -/
inductive Event where
  | start
  /-- It succeeds, with details if any are given. -/
  | success (details : Option String)
  | failure (message : String)
  | progress (message : String)

namespace Event

/-- The status that an event gives a log entry. -/
def status (a : Activity) (e : Event) : String :=
  match a, e with
  | .migration, start => "MIGRATION_STARTED"
  | .migration, success _ => "SUCCESS"
  | .migration, failure _ => "FAILURE"
  | .conversion, start => "DAX_CALCULATION_IN_PROGRESS"
  | .conversion, success _ => "DAX_CALCULATION_COMPLETED"
  | .conversion, failure _ => "DAX_CALCULATION_FAILED"
  | .analysis, start => "ANALYSIS_STARTED"
  | .analysis, success _ => "ANALYSIS_COMPLETED"
  | .analysis, failure _ => "ANALYSIS_FAILED"
  | .semanticModel, start => "SEMANTIC_MODEL_STARTED"
  | .semanticModel, success _ => "SEMANTIC_MODEL_COMPLETED"
  | .semanticModel, failure _ => "SEMANTIC_MODEL_FAILED"
  | _, progress _ => "IN_PROGRESS"

/-- What an activity is called in messages. -/
def subject : Activity → String
  | .migration => "Migration"
  | .conversion => "DAX conversion"
  | .analysis => "Analysis"
  | .semanticModel => "Semantic model"

/-- The details of a success for which none are given. -/
def plainSuccess (a : Activity) : String := subject a ++ " completed successfully"

/-- The message of a log entry. -/
def message (a : Activity) (e : Event) : String :=
  match e with
  | start =>
    match a with
    | .semanticModel => "Semantic model generation initiated"
    | _ => subject a ++ " process initiated"
  | success details =>
    let details := details.getD (plainSuccess a)
    match a with
    | .semanticModel => plainSuccess a ++ ": " ++ details
    | _ => if details = plainSuccess a then details else subject a ++ " completed: " ++ details
  | failure message =>
    match a with
    | .semanticModel => "Semantic model generation failed: " ++ message
    | _ => subject a ++ " failed: " ++ message
  | progress message => subject a ++ " progress: " ++ message

end Event

/-- An entry, all of which has to be given. -/
def Log.filled (id : Id) (t : Timestamp) (report : Option Id) (status message : Option String)
    (user : Option Id) : Except Fault Log := do
  return {
    id := id
    reportId := ← required "report_logs" "report_id" report
    timestamp := t
    status := ← required "report_logs" "status" status
    message := ← required "report_logs" "message" message
    createdBy := ← required "report_logs" "created_by" user
    isDeleted := some false }

/-- Adds an entry with a status as it is. -/
def addLog (report : Option Id) (status message : Option String) (user : Option Id) : Op Unit := do
  let t ← Op.now
  Op.transaction do
    let id ← Op.drawId
    let log ← Op.ofExcept (Log.filled id t report status message user)
    Op.write (·.addLog log)

/-- Adds an entry of the kind that a status stands for. -/
def log (report : Option Id) (status : Json) (message : Option String) (user : Option Id) :
    Op Unit :=
  addLog report (some (LogLevel.ofJson status).text) message user

/-- Adds an entry for an event. -/
def logEvent (a : Activity) (e : Event) (report user : Option Id) : Op Unit :=
  log report (.str (e.status a)) (some (e.message a)) user

namespace Database

/-- The entries of a report, the latest first, and at most so many. -/
def logsOf (db : Database) (report : Option Id) (limit : Option Int) : Except Fault (List Log) :=
  let rows := descending (·.timestamp.micros) (db.logs.filter fun l => some l.reportId = report)
  match limit with
  | some n => Page.of ⟨0, n⟩ rows
  | none => .ok rows

/-- Marks the entries of some reports as deleted. -/
def hideLogs (db : Database) (reports : List Id) : Database :=
  { db with logs := db.logs.map fun l =>
      if reports.contains l.reportId then { l with isDeleted := some true } else l }

end Database

end ReportMigration
