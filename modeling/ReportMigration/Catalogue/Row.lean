import ReportMigration.Catalogue.Label
import ReportMigration.Id
import ReportMigration.Time.Timestamp
/-!
The rows of the catalogue: who works for which organisation, which servers and sites hold which
projects and reports, and what is known about each report.

Every row has an identifier. Most carry an `Audit`: who made and last changed them, when, and whether
they are marked as deleted.
-/
namespace ReportMigration

/-- Who made and last changed a row, and when. -/
structure Audit where
  createdBy : Option Id := none
  updatedBy : Option Id := none
  createdAt : Timestamp := .epoch
  updatedAt : Timestamp := .epoch
  isDeleted : Bool := false

/-- The record of a change that leaves `updated_at` to the database. -/
def Audit.touch (a : Audit) : Audit := { a with updatedAt := .epoch }

/-- A role that users can have. -/
structure Role where
  audit : Audit
  id : Id
  name : Coded RoleName

/-- An organisation. -/
structure Organization where
  audit : Audit
  id : Id
  name : String
  credits : Option Int
  contactPersonName : String
  mobileNumber : String
  address : Option String
  serviceType : Option String

/-- A user of an organisation. -/
structure User where
  audit : Audit
  id : Id
  name : String
  email : String
  passwordHash : String
  phoneNumber : String
  firstName : Option String
  lastName : Option String
  status : Option String
  lastLogin : Option Timestamp
  organizationId : Id
  roleId : Id
  managerId : Option Id

/-- A server that reports are read from. -/
structure Server where
  audit : Audit
  id : Id
  organizationId : Id
  userId : Id
  name : String
  serverUrl : String
  status : Coded ServerStatus
  type : Coded ServerType
  reportCount : Int
  projectCount : Int
  siteCount : Int

/-- What is needed to sign in to a server. -/
structure Credential where
  audit : Audit
  id : Id
  serverId : Id
  tokenName : Option String
  tokenSecret : Option String
  username : Option String
  password : Option String
  authType : Coded ServerAuthType

/-- A site of a server, reached with a credential. -/
structure Site where
  audit : Audit
  id : Id
  credentialsId : Id
  siteName : String
  siteId : Id

/-- A project or folder, possibly inside another one. -/
structure Project where
  audit : Audit
  id : Id
  name : String
  isUpload : Bool
  siteId : Option Id
  serverId : Option Id
  parentId : Option Id
  userId : Id
  assignedTo : Option Id

/-- A stage of the migration of a report: whether it is done, and the status it ended with. -/
structure Stage where
  done : Option Bool
  status : Option String

/-- A report of a project. -/
structure Report where
  id : Id
  name : String
  /-- The name of the report in object storage. -/
  reportId : Id
  projectId : Id
  reportType : Option String
  analyzed : Stage
  converted : Stage
  migrated : Stage
  semantic : Stage
  unitTested : Option Bool
  uatTested : Option Bool
  deployed : Option Bool
  isScoped : Option Bool
  semanticType : Option String
  hasSemanticModel : Option Bool
  viewCount : Option Int
  userCount : Option Int
  sourceCreatedAt : Option Timestamp
  sourceUpdatedAt : Option Timestamp
  lastViewed : Option Timestamp
  createdAt : Timestamp
  updatedAt : Timestamp
  createdBy : Option Id
  updatedBy : Option Id
  isDeleted : Option Bool
  status : Option (Coded ReportStatus)

/-- What an analysis found in a report. -/
structure Analysis where
  audit : Audit
  id : Id
  dashboardCount : Option Int
  worksheetCount : Option Int
  datasourceCount : Option Int
  calculationCount : Option Int
  manualMigrationCount : Option Int
  nativeVisuals : Option Int
  customVisuals : Option Int
  parameters : Option Int
  filters : Option Int
  migration : Option String
  complexity : Option (Coded Complexity)
  priority : Option String
  reportId : Id

/-- An entry in the log of a report. -/
structure Log where
  id : Id
  reportId : Id
  timestamp : Timestamp
  status : String
  message : String
  createdBy : Id
  isDeleted : Option Bool

/-- The twelve features of a visual by which duplicates are found. -/
structure VisualKey where
  organizationId : Option Id
  reportId : Option Id
  workbookName : Option String
  dashboardName : Option String
  visualName : Option String
  sheetName : Option String
  visualType : Option String
  visualDatasource : Option String
  datasourceType : Option String
  type : Option String
  rows : Option String
  columns : Option String
  deriving DecidableEq

/-- A visual of a report. -/
structure Visual where
  id : Id
  reportId : Id
  organizationId : Id
  workbookName : String
  dashboardName : String
  visualName : String
  visualType : String
  visualDatasource : String
  sheetName : String
  datasourceType : String
  rows : Option String
  columns : Option String
  createdAt : Option Timestamp
  type : String

/-- The features of a visual. -/
def Visual.key (v : Visual) : VisualKey where
  organizationId := v.organizationId
  reportId := v.reportId
  workbookName := v.workbookName
  dashboardName := v.dashboardName
  visualName := v.visualName
  sheetName := v.sheetName
  visualType := v.visualType
  visualDatasource := v.visualDatasource
  datasourceType := v.datasourceType
  type := v.type
  rows := v.rows
  columns := v.columns

/-- A token kept for a server whose use statistics are read later. -/
structure StaleCredential where
  id : Id
  serverId : Id
  tokenName : String
  tokenSecret : String
  serverUrl : String
  siteName : Option String

/-- A data source of an organisation. -/
structure Datasource where
  audit : Audit
  id : Id
  name : String
  type : String
  organizationId : Id
  credentials : Json

/-- An object storage of an organisation. -/
structure StorageAccount where
  audit : Audit
  id : Id
  storageType : String
  accessToken : String
  secretKey : String
  bucketName : String
  organizationId : Id

/-- A purchase of credits. -/
structure Transaction where
  audit : Audit
  id : Id
  organizationId : Id
  creditsPurchased : Int
  amount : String

end ReportMigration
