import ReportMigration.Catalogue.Database
import ReportMigration.Time.Iso
/-!
Rows as objects of named columns, and a whole catalogue read from such objects.

`toColumns` of a row shows every column, and `ofColumns` reads a row from those that are given, with
the column's default for each that is not.
-/
namespace ReportMigration

/-- The columns of a row by name. -/
abbrev Columns := List (String × Json)

namespace Columns

/-- The text in a column. -/
def text? (c : Columns) (k : String) : Option String :=
  match Json.getField? k c with
  | some (.str s) => some s
  | _ => none

/-- The text in a column that always has one. -/
def text (c : Columns) (k : String) : String := (c.text? k).getD ""

/-- The identifier in a column. -/
def id? (c : Columns) (k : String) : Option Id := (c.text? k).map Id.mk

/-- The identifier in a column that always has one. -/
def id (c : Columns) (k : String) : Id := ⟨c.text k⟩

/-- The time in a column. -/
def time? (c : Columns) (k : String) : Option Timestamp := (c.text? k).bind Time.read?

/-- The whole number in a column, if the column is given. -/
def int (c : Columns) (k : String) (default : Option Int) : Option Int :=
  match Json.getField? k c with
  | some (.int n) => some n
  | some _ => none
  | none => default

/-- The truth value in a column, if the column is given. -/
def flag (c : Columns) (k : String) (default : Option Bool) : Option Bool :=
  match Json.getField? k c with
  | some (.bool b) => some b
  | some _ => none
  | none => default

/-- The label in a column. -/
def label {α : Type} [Labelled α] (c : Columns) (k : String) : Coded α := .ofText (c.text k)

/-- Who made and last changed the row. -/
def audit (c : Columns) : Audit where
  createdBy := c.id? "created_by"
  updatedBy := c.id? "updated_by"
  createdAt := (c.time? "created_at").getD .epoch
  updatedAt := (c.time? "updated_at").getD .epoch
  isDeleted := (c.flag "is_deleted" (some false)).getD false

/-- The stage of a report in two columns. -/
def stage (c : Columns) (done status : String) : Stage where
  done := c.flag done (some false)
  status := c.text? status

end Columns

namespace Json

/-- An identifier, or null. -/
def ofId? : Option Id → Json
  | some i => .str i.text
  | none => .null

/-- A time, or null. -/
def ofTime? : Option Timestamp → Json
  | some t => .str t.iso
  | none => .null

end Json

def Audit.toColumns (a : Audit) : Columns :=
  [("created_by", .ofId? a.createdBy), ("updated_by", .ofId? a.updatedBy),
    ("created_at", .str a.createdAt.iso), ("updated_at", .str a.updatedAt.iso),
    ("is_deleted", .bool a.isDeleted)]

def Role.toColumns (r : Role) : Columns :=
  r.audit.toColumns ++ [("id", .str r.id.text), ("name", .str r.name.shown)]

def Role.ofColumns (c : Columns) : Role := ⟨c.audit, c.id "id", c.label "name"⟩

def Organization.toColumns (o : Organization) : Columns :=
  o.audit.toColumns ++
    [("id", .str o.id.text), ("name", .str o.name), ("credits", .ofInt? o.credits),
      ("contact_person_name", .str o.contactPersonName), ("mobile_number", .str o.mobileNumber),
      ("address", .ofText? o.address), ("service_type", .ofText? o.serviceType)]

def Organization.ofColumns (c : Columns) : Organization where
  audit := c.audit
  id := c.id "id"
  name := c.text "name"
  credits := c.int "credits" (some 0)
  contactPersonName := c.text "contact_person_name"
  mobileNumber := c.text "mobile_number"
  address := c.text? "address"
  serviceType := c.text? "service_type"

def User.toColumns (u : User) : Columns :=
  u.audit.toColumns ++
    [("id", .str u.id.text), ("name", .str u.name), ("email", .str u.email),
      ("password_hash", .str u.passwordHash), ("phone_number", .str u.phoneNumber),
      ("first_name", .ofText? u.firstName), ("last_name", .ofText? u.lastName),
      ("status", .ofText? u.status), ("last_login", .ofTime? u.lastLogin),
      ("organization_id", .str u.organizationId.text), ("role_id", .str u.roleId.text),
      ("manager_id", .ofId? u.managerId)]

def User.ofColumns (c : Columns) : User where
  audit := c.audit
  id := c.id "id"
  name := c.text "name"
  email := c.text "email"
  passwordHash := c.text "password_hash"
  phoneNumber := c.text "phone_number"
  firstName := c.text? "first_name"
  lastName := c.text? "last_name"
  status := if (Json.getField? "status" c).isSome then c.text? "status" else some "ACTIVE"
  lastLogin := c.time? "last_login"
  organizationId := c.id "organization_id"
  roleId := c.id "role_id"
  managerId := c.id? "manager_id"

def Server.toColumns (s : Server) : Columns :=
  s.audit.toColumns ++
    [("id", .str s.id.text), ("organization_id", .str s.organizationId.text),
      ("user_id", .str s.userId.text), ("name", .str s.name), ("server_url", .str s.serverUrl),
      ("status", .str s.status.shown), ("type", .str s.type.shown),
      ("report_count", .int s.reportCount), ("project_count", .int s.projectCount),
      ("site_count", .int s.siteCount)]

def Server.ofColumns (c : Columns) : Server where
  audit := c.audit
  id := c.id "id"
  organizationId := c.id "organization_id"
  userId := c.id "user_id"
  name := c.text "name"
  serverUrl := c.text "server_url"
  status := c.label "status"
  type := c.label "type"
  reportCount := (c.int "report_count" (some 0)).getD 0
  projectCount := (c.int "project_count" (some 0)).getD 0
  siteCount := (c.int "site_count" (some 0)).getD 0

def Credential.toColumns (x : Credential) : Columns :=
  x.audit.toColumns ++
    [("id", .str x.id.text), ("server_id", .str x.serverId.text),
      ("pat_name", .ofText? x.tokenName), ("pat_secret", .ofText? x.tokenSecret),
      ("username", .ofText? x.username), ("password", .ofText? x.password),
      ("server_auth_type", .str x.authType.shown)]

def Credential.ofColumns (c : Columns) : Credential where
  audit := c.audit
  id := c.id "id"
  serverId := c.id "server_id"
  tokenName := c.text? "pat_name"
  tokenSecret := c.text? "pat_secret"
  username := c.text? "username"
  password := c.text? "password"
  authType := c.label "server_auth_type"

def Site.toColumns (s : Site) : Columns :=
  s.audit.toColumns ++
    [("id", .str s.id.text), ("credentials_id", .str s.credentialsId.text),
      ("site_name", .str s.siteName), ("site_id", .str s.siteId.text)]

def Site.ofColumns (c : Columns) : Site :=
  ⟨c.audit, c.id "id", c.id "credentials_id", c.text "site_name", c.id "site_id"⟩

def Project.toColumns (p : Project) : Columns :=
  p.audit.toColumns ++
    [("id", .str p.id.text), ("name", .str p.name), ("is_upload", .bool p.isUpload),
      ("site_id", .ofId? p.siteId), ("server_id", .ofId? p.serverId),
      ("parent_id", .ofId? p.parentId),
      ("user_id", .str p.userId.text), ("assigned_to", .ofId? p.assignedTo)]

def Project.ofColumns (c : Columns) : Project where
  audit := c.audit
  id := c.id "id"
  name := c.text "name"
  isUpload := (c.flag "is_upload" (some false)).getD false
  siteId := c.id? "site_id"
  serverId := c.id? "server_id"
  parentId := c.id? "parent_id"
  userId := c.id "user_id"
  assignedTo := c.id? "assigned_to"

def Report.toColumns (r : Report) : Columns :=
  [("id", .str r.id.text), ("name", .str r.name), ("report_id", .str r.reportId.text),
    ("project_id", .str r.projectId.text), ("report_type", .ofText? r.reportType),
    ("is_analyzed", .ofBool? r.analyzed.done), ("analyzed_status", .ofText? r.analyzed.status),
    ("is_converted", .ofBool? r.converted.done), ("converted_status", .ofText? r.converted.status),
    ("is_migrated", .ofBool? r.migrated.done), ("migrated_status", .ofText? r.migrated.status),
    ("is_semantic", .ofBool? r.semantic.done), ("semantic_status", .ofText? r.semantic.status),
    ("unit_tested", .ofBool? r.unitTested), ("uat_tested", .ofBool? r.uatTested),
    ("deployed", .ofBool? r.deployed), ("is_scoped", .ofBool? r.isScoped),
    ("semantic_type", .ofText? r.semanticType), ("has_semantic_model", .ofBool? r.hasSemanticModel),
    ("view_count", .ofInt? r.viewCount), ("tableau_usercount", .ofInt? r.userCount),
    ("tableau_report_createdat", .ofTime? r.sourceCreatedAt),
    ("tableau_report_updatedat", .ofTime? r.sourceUpdatedAt),
    ("tableau_report_last_viewed", .ofTime? r.lastViewed), ("created_at", .str r.createdAt.iso),
    ("updated_at", .str r.updatedAt.iso), ("created_by", .ofId? r.createdBy),
    ("updated_by", .ofId? r.updatedBy), ("is_deleted", .ofBool? r.isDeleted),
    ("report_status", .ofText? (r.status.map Coded.shown))]

def Report.ofColumns (c : Columns) : Report where
  id := c.id "id"
  name := c.text "name"
  reportId := c.id "report_id"
  projectId := c.id "project_id"
  reportType := c.text? "report_type"
  analyzed := c.stage "is_analyzed" "analyzed_status"
  converted := c.stage "is_converted" "converted_status"
  migrated := c.stage "is_migrated" "migrated_status"
  semantic := c.stage "is_semantic" "semantic_status"
  unitTested := c.flag "unit_tested" (some false)
  uatTested := c.flag "uat_tested" (some false)
  deployed := c.flag "deployed" (some false)
  isScoped := c.flag "is_scoped" (some false)
  semanticType := c.text? "semantic_type"
  hasSemanticModel := c.flag "has_semantic_model" (some false)
  viewCount := c.int "view_count" (some 0)
  userCount := c.int "tableau_usercount" (some 0)
  sourceCreatedAt := c.time? "tableau_report_createdat"
  sourceUpdatedAt := c.time? "tableau_report_updatedat"
  lastViewed := c.time? "tableau_report_last_viewed"
  createdAt := (c.time? "created_at").getD .epoch
  updatedAt := (c.time? "updated_at").getD .epoch
  createdBy := c.id? "created_by"
  updatedBy := c.id? "updated_by"
  isDeleted := c.flag "is_deleted" (some false)
  status := (c.text? "report_status").map Coded.ofText

def Analysis.toColumns (a : Analysis) : Columns :=
  a.audit.toColumns ++
    [("id", .str a.id.text), ("dashboard_count", .ofInt? a.dashboardCount),
      ("worksheet_count", .ofInt? a.worksheetCount),
      ("datasource_count", .ofInt? a.datasourceCount),
      ("calculation_count", .ofInt? a.calculationCount),
      ("manual_migration_count", .ofInt? a.manualMigrationCount),
      ("native_visuals", .ofInt? a.nativeVisuals), ("customVisuals", .ofInt? a.customVisuals),
      ("parameters", .ofInt? a.parameters), ("filters", .ofInt? a.filters),
      ("migration", .ofText? a.migration),
      ("complexity_type", .ofText? (a.complexity.map Coded.shown)),
      ("priority", .ofText? a.priority), ("report_id", .str a.reportId.text)]

def Analysis.ofColumns (c : Columns) : Analysis where
  audit := c.audit
  id := c.id "id"
  dashboardCount := c.int "dashboard_count" (some 0)
  worksheetCount := c.int "worksheet_count" (some 0)
  datasourceCount := c.int "datasource_count" (some 0)
  calculationCount := c.int "calculation_count" (some 0)
  manualMigrationCount := c.int "manual_migration_count" (some 0)
  nativeVisuals := c.int "native_visuals" (some 0)
  customVisuals := c.int "customVisuals" (some 0)
  parameters := c.int "parameters" (some 0)
  filters := c.int "filters" (some 0)
  migration := if (Json.getField? "migration" c).isSome then c.text? "migration" else some "Yes"
  complexity := (c.text? "complexity_type").map Coded.ofText
  priority := c.text? "priority"
  reportId := c.id "report_id"

def Log.toColumns (l : Log) : Columns :=
  [("id", .str l.id.text), ("report_id", .str l.reportId.text), ("timestamp", .str l.timestamp.iso),
    ("status", .str l.status), ("message", .str l.message), ("created_by", .str l.createdBy.text),
    ("is_deleted", .ofBool? l.isDeleted)]

def Log.ofColumns (c : Columns) : Log where
  id := c.id "id"
  reportId := c.id "report_id"
  timestamp := (c.time? "timestamp").getD .epoch
  status := c.text "status"
  message := c.text "message"
  createdBy := c.id "created_by"
  isDeleted := c.flag "is_deleted" (some false)

def Visual.toColumns (v : Visual) : Columns :=
  [("id", .str v.id.text), ("report_id", .str v.reportId.text),
    ("organization_id", .str v.organizationId.text), ("workbook_name", .str v.workbookName),
    ("dashboard_name", .str v.dashboardName), ("visual_name", .str v.visualName),
    ("visual_type", .str v.visualType), ("visual_datasource", .str v.visualDatasource),
    ("sheet_name", .str v.sheetName), ("datasource_type", .str v.datasourceType),
    ("rows", .ofText? v.rows), ("columns", .ofText? v.columns),
    ("created_at", .ofTime? v.createdAt),
    ("type", .str v.type)]

def Visual.ofColumns (c : Columns) : Visual where
  id := c.id "id"
  reportId := c.id "report_id"
  organizationId := c.id "organization_id"
  workbookName := c.text "workbook_name"
  dashboardName := c.text "dashboard_name"
  visualName := c.text "visual_name"
  visualType := c.text "visual_type"
  visualDatasource := c.text "visual_datasource"
  sheetName := c.text "sheet_name"
  datasourceType := c.text "datasource_type"
  rows := c.text? "rows"
  columns := c.text? "columns"
  createdAt := c.time? "created_at"
  type := c.text "type"

def StaleCredential.toColumns (s : StaleCredential) : Columns :=
  [("id", .str s.id.text), ("server_id", .str s.serverId.text), ("pat_name", .str s.tokenName),
    ("pat_secret", .str s.tokenSecret), ("server_url", .str s.serverUrl),
    ("site_name", .ofText? s.siteName)]

def StaleCredential.ofColumns (c : Columns) : StaleCredential :=
  ⟨c.id "id", c.id "server_id", c.text "pat_name", c.text "pat_secret", c.text "server_url",
    c.text? "site_name"⟩

def Datasource.toColumns (s : Datasource) : Columns :=
  s.audit.toColumns ++
    [("id", .str s.id.text), ("name", .str s.name), ("type", .str s.type),
      ("organization_id", .str s.organizationId.text), ("credentials", s.credentials)]

def Datasource.ofColumns (c : Columns) : Datasource :=
  ⟨c.audit, c.id "id", c.text "name", c.text "type", c.id "organization_id",
    (Json.getField? "credentials" c).getD .null⟩

def StorageAccount.toColumns (s : StorageAccount) : Columns :=
  s.audit.toColumns ++
    [("id", .str s.id.text), ("storage_type", .str s.storageType),
      ("access_token", .str s.accessToken), ("secret_key", .str s.secretKey),
      ("bucket_name", .str s.bucketName), ("organization_id", .str s.organizationId.text)]

def StorageAccount.ofColumns (c : Columns) : StorageAccount :=
  ⟨c.audit, c.id "id", c.text "storage_type", c.text "access_token", c.text "secret_key",
    c.text "bucket_name", c.id "organization_id"⟩

def Transaction.toColumns (t : Transaction) : Columns :=
  t.audit.toColumns ++
    [("id", .str t.id.text), ("organization_id", .str t.organizationId.text),
      ("credits_purchased", .int t.creditsPurchased), ("amount", .str t.amount)]

def Transaction.ofColumns (c : Columns) : Transaction :=
  ⟨c.audit, c.id "id", c.id "organization_id", (c.int "credits_purchased" none).getD 0,
    c.text "amount"⟩

namespace Database

/-- The names of the tables. -/
def tableNames : List String :=
  ["roles", "organization_details", "users", "tableau_server_details", "tableau_server_credentials",
    "tableau_site_details", "project_details", "report_details", "report_analysis", "report_logs",
    "duplicate_analysis", "stale_credentials", "datasource_details", "storage_details",
    "transaction_details"]

/-- The rows of a table, column by column, in the order of their insertion. -/
def table (db : Database) : String → List Columns
  | "roles" => db.roles.map Role.toColumns
  | "organization_details" => db.organizations.map Organization.toColumns
  | "users" => db.users.map User.toColumns
  | "tableau_server_details" => db.servers.map Server.toColumns
  | "tableau_server_credentials" => db.credentials.map Credential.toColumns
  | "tableau_site_details" => db.sites.map Site.toColumns
  | "project_details" => db.projects.map Project.toColumns
  | "report_details" => db.reports.map Report.toColumns
  | "report_analysis" => db.analyses.map Analysis.toColumns
  | "report_logs" => db.logs.map Log.toColumns
  | "duplicate_analysis" => db.visuals.map Visual.toColumns
  | "stale_credentials" => db.staleCredentials.map StaleCredential.toColumns
  | "datasource_details" => db.datasources.map Datasource.toColumns
  | "storage_details" => db.storageAccounts.map StorageAccount.toColumns
  | "transaction_details" => db.transactions.map Transaction.toColumns
  | _ => []

/-- The catalogue that holds the given rows, which are not checked against each other. -/
def ofTables (rows : String → List Columns) : Database where
  roles := (rows "roles").map Role.ofColumns
  organizations := (rows "organization_details").map Organization.ofColumns
  users := (rows "users").map User.ofColumns
  servers := (rows "tableau_server_details").map Server.ofColumns
  credentials := (rows "tableau_server_credentials").map Credential.ofColumns
  sites := (rows "tableau_site_details").map Site.ofColumns
  projects := (rows "project_details").map Project.ofColumns
  reports := (rows "report_details").map Report.ofColumns
  analyses := (rows "report_analysis").map Analysis.ofColumns
  logs := (rows "report_logs").map Log.ofColumns
  visuals := (rows "duplicate_analysis").map Visual.ofColumns
  staleCredentials := (rows "stale_credentials").map StaleCredential.ofColumns
  datasources := (rows "datasource_details").map Datasource.ofColumns
  storageAccounts := (rows "storage_details").map StorageAccount.ofColumns
  transactions := (rows "transaction_details").map Transaction.ofColumns

end Database

end ReportMigration
