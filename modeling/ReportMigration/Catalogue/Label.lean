import ReportMigration.Fault
/-!
Columns whose values come from a fixed set.

A value of such a set has a label that is stored and one that is shown. A column takes any text: one
that is the stored or shown label of a value stands for it, and any other is kept as it is, but
cannot be read back (`Coded.read`).
-/
namespace ReportMigration

/-- A fixed set of values with labels. -/
class Labelled (α : Type) where
  /-- The name of the set. -/
  setName : String
  /-- The values in order. -/
  all : List α
  /-- The label that is stored. -/
  stored : α → String
  /-- The label that is shown. -/
  shown : α → String

/-- What a column with values of `α` holds. -/
inductive Coded (α : Type) where
  | known (a : α)
  | stray (text : String)
  deriving DecidableEq

namespace Coded

variable {α : Type} [Labelled α]

/-- The value that a text stands for. -/
def ofText (text : String) : Coded α :=
  match (Labelled.all (α := α)).find? fun a => Labelled.stored a = text || Labelled.shown a = text with
  | some a => known a
  | none => stray text

/-- The text that is stored. -/
def stored : Coded α → String
  | known a => Labelled.stored a
  | stray t => t

/-- The text that is shown. -/
def shown : Coded α → String
  | known a => Labelled.shown a
  | stray t => t

/-- A label in a list of labels: cut after eleven characters. -/
def brief (s : String) : String :=
  if s.length > 11 then .ofList (s.toList.take 11) ++ ".." else s

/-- A list of labels of which at most four are named. -/
def briefly (names : List String) : String :=
  if names.length ≤ 4 then ", ".intercalate (names.map brief)
  else ", ".intercalate ((names.take 3).map brief) ++ ", ..., " ++ brief (names.getLastD "")

/-- The value read back from the column; a text outside the set cannot be read. -/
def read : Coded α → Except Fault α
  | known a => .ok a
  | stray t => .error <| .failure .lookup <|
      "'" ++ t ++ "' is not among the defined enum values. Enum name: " ++ Labelled.setName α ++
        ". Possible values: " ++ briefly ((Labelled.all (α := α)).map Labelled.stored)

end Coded

/-- The roles of users. -/
inductive RoleName where
  | admin
  | manager
  | developer
  deriving DecidableEq

instance : Labelled RoleName where
  setName := "roleenum"
  all := [.admin, .manager, .developer]
  stored
    | .admin => "ADMIN"
    | .manager => "MANAGER"
    | .developer => "DEVELOPER"
  shown
    | .admin => "Admin"
    | .manager => "Manager"
    | .developer => "Developer"

/-- How hard a report is to migrate. -/
inductive Complexity where
  | simple
  | medium
  | complex
  | superComplex
  deriving DecidableEq

instance : Labelled Complexity where
  setName := "complexitytypeenum"
  all := [.simple, .medium, .complex, .superComplex]
  stored
    | .simple => "SIMPLE"
    | .medium => "MEDIUM"
    | .complex => "COMPLEX"
    | .superComplex => "SUPER_COMPLEX"
  shown
    | .simple => "Simple"
    | .medium => "Medium"
    | .complex => "Complex"
    | .superComplex => "Super Complex"

/-- Whether a server is in use. -/
inductive ServerStatus where
  | active
  | inactive
  deriving DecidableEq

instance : Labelled ServerStatus where
  setName := "serverstatus"
  all := [.active, .inactive]
  stored
    | .active => "ACTIVE"
    | .inactive => "INACTIVE"
  shown
    | .active => "ACTIVE"
    | .inactive => "INACTIVE"

/-- Where a server runs. -/
inductive ServerType where
  | onPremise
  | cloud
  deriving DecidableEq

instance : Labelled ServerType where
  setName := "servertype"
  all := [.onPremise, .cloud]
  stored
    | .onPremise => "ONPREMISE"
    | .cloud => "CLOUD"
  shown
    | .onPremise => "ONPREMISE"
    | .cloud => "CLOUD"

/-- How one signs in to a server. -/
inductive ServerAuthType where
  | credentials
  | token
  deriving DecidableEq

instance : Labelled ServerAuthType where
  setName := "serverauthtype"
  all := [.credentials, .token]
  stored
    | .credentials => "CREDENTIALS"
    | .token => "PAT"
  shown
    | .credentials => "CREDENTIALS"
    | .token => "PAT"

/-- How far a report has come. -/
inductive ReportStatus where
  | unassigned
  | assigned
  | analysisCompleted
  | daxCompleted
  | daxFailed
  | semanticModelCompleted
  | semanticModelFailed
  | migrationStarted
  | migrated
  | migrationFailed
  | unitTestingCompleted
  | uatCompleted
  | deployed
  | unitTestingFailed
  | uatFailed
  | daxInProgress
  | unitTestingInProgress
  | uatInProgress
  | analysisFailed
  | analysisPending
  | analysisSkipped
  | fetched
  | info
  | success
  | failed
  deriving DecidableEq

/-- The label of a report status. -/
def ReportStatus.label : ReportStatus → String
  | unassigned => "Un Assigned"
  | assigned => "Assigned"
  | analysisCompleted => "Analysis Completed"
  | daxCompleted => "DAX Calculation Completed"
  | daxFailed => "DAX Calculation Failed"
  | semanticModelCompleted => "Semantic Model Completed"
  | semanticModelFailed => "Semantic Model Failed"
  | migrationStarted => "Migration Started"
  | migrated => "Migrated"
  | migrationFailed => "Migration Failed"
  | unitTestingCompleted => "Unit Testing Completed"
  | uatCompleted => "UAT Completed"
  | deployed => "Deployed"
  | unitTestingFailed => "Unit Testing Failed"
  | uatFailed => "UAT Failed"
  | daxInProgress => "DAX Calculation In Progress"
  | unitTestingInProgress => "Unit Testing In Progress"
  | uatInProgress => "UAT In Progress"
  | analysisFailed => "Analysis Failed"
  | analysisPending => "Analysis Pending"
  | analysisSkipped => "Analysis Skipped"
  | fetched => "Fetched"
  | info => "Info"
  | success => "success"
  | failed => "failed"

instance : Labelled ReportStatus where
  setName := "report_status_enum"
  all := [.unassigned, .assigned, .analysisCompleted, .daxCompleted, .daxFailed,
    .semanticModelCompleted, .semanticModelFailed, .migrationStarted, .migrated, .migrationFailed,
    .unitTestingCompleted, .uatCompleted, .deployed, .unitTestingFailed, .uatFailed, .daxInProgress,
    .unitTestingInProgress, .uatInProgress, .analysisFailed, .analysisPending, .analysisSkipped,
    .fetched, .info, .success, .failed]
  stored := ReportStatus.label
  shown := ReportStatus.label

end ReportMigration
