import ReportMigration.Vocabulary.Status
/-!
The tables of the catalogue, column by column.

A `Column` says what kind of value it holds and what the database demands of the value. Most tables
begin with the columns of `Schema.audit`, which say who made and changed a row and when.
-/
namespace ReportMigration

/-- The kinds of values in a column. -/
inductive ColumnType where
  | id
  /-- A text, perhaps of a limited length. -/
  | text (length : Option Nat)
  | longText
  | int
  | bool
  | time
  | json
  /-- A member of a fixed set, stored by its name. -/
  | member (set : Vocabulary)
  /-- A member of a fixed set, stored by its value. -/
  | memberValue (set : Vocabulary)

namespace ColumnType

/-- The name of a kind of value. -/
def name : ColumnType → String
  | id => "UUID"
  | text _ => "String"
  | longText => "Text"
  | int => "Integer"
  | bool => "Boolean"
  | time => "DateTime"
  | json => "JSON"
  | member _ => "Enum"
  | memberValue _ => "ENUM"

/-- The length that a text is limited to. -/
def length : ColumnType → Option Nat
  | text n => n
  | _ => none

/-- The texts that are stored for the members of a fixed set, if the kind of value is one. -/
def values : ColumnType → Option (List Json)
  | member set => some (set.entries.map fun e => .str e.1)
  | memberValue set => some (set.entries.map fun e => e.2.toJson)
  | _ => none

end ColumnType

/-- A column of a table. -/
structure Column where
  name : String
  type : ColumnType
  nullable : Bool := true
  /-- Whether the column identifies the rows. -/
  isKey : Bool := false
  unique : Bool := false
  /-- The table whose rows the column refers to. -/
  target : Option String := none
  /-- What the database puts where no value is given. -/
  fallback : Option String := none

/-- A table of the catalogue. -/
structure TableSchema where
  name : String
  columns : List Column

namespace Schema

/-- The identifier of a row. -/
def key : Column := { name := "id", type := .id, nullable := false, isKey := true }

/-- A text that must be given. -/
def required (name : String) : Column := { name := name, type := .text none, nullable := false }

/-- A text that may be left out. -/
def optional (name : String) : Column := { name := name, type := .text none }

/-- A text that must be given and differs from row to row. -/
def distinct (name : String) : Column := { required name with unique := true }

/-- An identifier that must be given. -/
def requiredId (name : String) : Column := { name := name, type := .id, nullable := false }

/-- A row of a table that must be given. -/
def reference (name target : String) : Column := { requiredId name with target := some target }

/-- A row of a table that may be left out. -/
def optionalReference (name target : String) : Column :=
  { name := name, type := .id, target := some target }

/-- A date and time that may be left out. -/
def optionalTime (name : String) : Column := { name := name, type := .time }

/-- A date and time that must be given. -/
def requiredTime (name : String) : Column := { name := name, type := .time, nullable := false }

/-- A number that starts at zero. -/
def counter (name : String) : Column := { name := name, type := .int, fallback := some "0" }

/-- A truth value that starts as false. -/
def flag (name : String) : Column := { name := name, type := .bool, fallback := some "false" }

/-- A member of a fixed set that must be given. -/
def choice (name : String) (set : Vocabulary) : Column :=
  { name := name, type := .member set, nullable := false }

/-- Who made and changed a row and when, and whether it is deleted. -/
def audit : List Column :=
  [{ name := "created_by", type := .id }, { name := "updated_by", type := .id },
    requiredTime "created_at", requiredTime "updated_at",
    { name := "is_deleted", type := .bool, nullable := false }]

def roles : TableSchema where
  name := "roles"
  columns := audit ++ [key, { choice "name" Vocabulary.role with unique := true }]

def organizations : TableSchema where
  name := "organization_details"
  columns := audit ++
    [key, required "name", { name := "credits", type := .int }, required "contact_person_name",
      distinct "mobile_number", optional "address", optional "service_type"]

def users : TableSchema where
  name := "users"
  columns := audit ++
    [key, required "name", distinct "email", required "password_hash", distinct "phone_number",
      optional "first_name", optional "last_name", optional "status", optionalTime "last_login",
      reference "organization_id" "organization_details", reference "role_id" "roles",
      optionalReference "manager_id" "users"]

def servers : TableSchema where
  name := "tableau_server_details"
  columns := audit ++
    [key, reference "organization_id" "organization_details", reference "user_id" "users",
      required "name", required "server_url", choice "status" Vocabulary.serverStatus,
      choice "type" Vocabulary.serverType, { counter "report_count" with nullable := false },
      { counter "project_count" with nullable := false },
      { counter "site_count" with nullable := false }]

def credentials : TableSchema where
  name := "tableau_server_credentials"
  columns := audit ++
    [key, reference "server_id" "tableau_server_details", optional "pat_name",
      optional "pat_secret", optional "username", optional "password",
      choice "server_auth_type" Vocabulary.authentication]

def sites : TableSchema where
  name := "tableau_site_details"
  columns := audit ++
    [key, reference "credentials_id" "tableau_server_credentials", required "site_name",
      requiredId "site_id"]

def projects : TableSchema where
  name := "project_details"
  columns := audit ++
    [key, required "name", { flag "is_upload" with nullable := false },
      optionalReference "site_id" "tableau_site_details",
      optionalReference "server_id" "tableau_server_details",
      optionalReference "parent_id" "project_details", reference "user_id" "users",
      optionalReference "assigned_to" "users"]

def reports : TableSchema where
  name := "report_details"
  columns :=
    [key, required "name", requiredId "report_id", reference "project_id" "project_details",
      { name := "report_type", type := .text (some 5) }, flag "is_analyzed",
      optional "analyzed_status", flag "is_converted", optional "converted_status",
      flag "is_migrated", optional "migrated_status", flag "is_semantic",
      optional "semantic_status", flag "unit_tested", flag "uat_tested", flag "deployed",
      flag "is_scoped", optional "semantic_type", flag "has_semantic_model",
      counter "view_count", counter "tableau_usercount",
      optionalTime "tableau_report_last_viewed", requiredTime "created_at",
      requiredTime "updated_at", optionalTime "tableau_report_createdat",
      optionalTime "tableau_report_updatedat", optionalReference "created_by" "users",
      optionalReference "updated_by" "users", flag "is_deleted",
      { name := "report_status", type := .memberValue Vocabulary.reportStatus }]

def analyses : TableSchema where
  name := "report_analysis"
  columns := audit ++
    [key, counter "dashboard_count", counter "worksheet_count", counter "datasource_count",
      counter "calculation_count", counter "manual_migration_count", counter "native_visuals",
      counter "customVisuals", counter "parameters", counter "filters",
      { name := "migration", type := .text (some 10), fallback := some "Yes" },
      { name := "complexity_type", type := .member Vocabulary.complexityType },
      optional "priority", reference "report_id" "report_details"]

def logs : TableSchema where
  name := "report_logs"
  columns :=
    [key, reference "report_id" "report_details", requiredTime "timestamp",
      { name := "status", type := .text (some 50), nullable := false },
      { name := "message", type := .text (some 500), nullable := false },
      reference "created_by" "users", flag "is_deleted"]

def visuals : TableSchema where
  name := "duplicate_analysis"
  columns :=
    [key, requiredId "report_id", requiredId "organization_id", required "workbook_name",
      required "dashboard_name", required "visual_name", required "visual_type",
      required "visual_datasource", required "sheet_name", required "datasource_type",
      { name := "rows", type := .longText }, { name := "columns", type := .longText },
      optionalTime "created_at", required "type"]

def staleCredentials : TableSchema where
  name := "stale_credentials"
  columns :=
    [key, requiredId "server_id", required "pat_name", required "pat_secret",
      required "server_url", optional "site_name"]

def datasources : TableSchema where
  name := "datasource_details"
  columns := audit ++
    [key, required "name", required "type", reference "organization_id" "organization_details",
      { name := "credentials", type := .json }]

def storages : TableSchema where
  name := "storage_details"
  columns := audit ++
    [key, required "storage_type", required "access_token", required "secret_key",
      required "bucket_name", reference "organization_id" "organization_details"]

def transactions : TableSchema where
  name := "transaction_details"
  columns := audit ++
    [key, reference "organization_id" "organization_details",
      { name := "credits_purchased", type := .int, nullable := false }, required "amount"]

/-- All tables. -/
def all : List TableSchema :=
  [roles, organizations, users, servers, credentials, sites, projects, reports, analyses, logs,
    visuals, staleCredentials, datasources, storages, transactions]

/-- The table of a name. -/
def find? (name : String) : Option TableSchema := all.find? (·.name = name)

end Schema

end ReportMigration
