import ReportMigration.Vocabulary.Basic
/-!
The fixed sets that say how things stand: outcomes, statuses, priorities, roles and kinds of
servers and sources.
-/
namespace ReportMigration.Vocabulary

/-- Outcomes of work on a file. -/
def fileStatus : Vocabulary where
  name := "FileStatus"
  entries := ofTexts [
    ("SUCCESS", "success"), ("FAILURE", "failure"), ("ERROR", "error")]

/-- Outcomes of an operation. -/
def operationStatus : Vocabulary where
  name := "OperationStatus"
  entries := ofTexts [
    ("SUCCESS", "success"), ("FAILURE", "failure")]

/-- Whether a server is in use. -/
def serverStatus : Vocabulary where
  name := "ServerStatus"
  entries := ofTexts [
    ("ACTIVE", "ACTIVE"), ("INACTIVE", "INACTIVE")]

/-- How complex a report is. -/
def complexityType : Vocabulary where
  name := "ComplexityTypeEnum"
  entries := ofTexts [
    ("SIMPLE", "Simple"), ("MEDIUM", "Medium"), ("COMPLEX", "Complex"),
    ("SUPER_COMPLEX", "Super Complex")]

/-- How urgent a report is. -/
def priority : Vocabulary where
  name := "PriorityEnum"
  entries := ofTexts [
    ("LOW", "Low"), ("MEDIUM", "Medium"), ("HIGH", "High")]

/-- Whether a report is to be migrated. -/
def migration : Vocabulary where
  name := "MigrationEnum"
  entries := ofTexts [
    ("yes", "Yes"), ("no", "No")]

/-- Where a report stands. -/
def reportStatus : Vocabulary where
  name := "ReportStatusEnum"
  entries := ofTexts [
    ("UN_ASSIGNED", "Un Assigned"), ("ASSIGNED", "Assigned"),
    ("ANALYSIS_COMPLETED", "Analysis Completed"),
    ("DAX_CALCULATION_COMPLETED", "DAX Calculation Completed"),
    ("DAX_CALCULATION_FAILED", "DAX Calculation Failed"),
    ("SEMANTIC_MODEL_COMPLETED", "Semantic Model Completed"),
    ("SEMANTIC_MODEL_FAILED", "Semantic Model Failed"), ("MIGRATION_STARTED", "Migration Started"),
    ("MIGRATED", "Migrated"), ("MIGRATION_FAILED", "Migration Failed"),
    ("UNIT_TESTING_COMPLETED", "Unit Testing Completed"), ("UAT_COMPLETED", "UAT Completed"),
    ("DEPLOYED", "Deployed"), ("UNIT_TESTING_FAILED", "Unit Testing Failed"),
    ("UAT_FAILED", "UAT Failed"), ("DAX_CALCULATION_IN_PROGRESS", "DAX Calculation In Progress"),
    ("UNIT_TESTING_IN_PROGRESS", "Unit Testing In Progress"),
    ("UAT_IN_PROGRESS", "UAT In Progress"), ("ANALYSIS_FAILED", "Analysis Failed"),
    ("ANALYSIS_PENDING", "Analysis Pending"), ("ANALYSIS_SKIPPED", "Analysis Skipped"),
    ("FETCHED", "Fetched"), ("INFO", "Info"), ("SUCCESS", "success"), ("FAILED", "failed")]

/-- Where the discovery of a site stands. -/
def discoveryStatus : Vocabulary where
  name := "DiscoverSiteStatus"
  entries := ofTexts [
    ("INITIATED", "Initiated"), ("STARTED", "Started"), ("IN_PROGRESS", "InProgress"),
    ("COMPLETED", "Completed"), ("FAILED", "Failed")]

/-- How a server is signed in to. -/
def authentication : Vocabulary where
  name := "ServerAuthType"
  entries := ofTexts [
    ("CREDENTIALS", "CREDENTIALS"), ("PAT", "PAT")]

/-- Roles of users. -/
def role : Vocabulary where
  name := "RoleEnum"
  entries := ofTexts [
    ("ADMIN", "Admin"), ("MANAGER", "Manager"), ("DEVELOPER", "Developer")]

/-- Whether a user is active. -/
def userStatus : Vocabulary where
  name := "UserStatus"
  entries := ofTexts [
    ("ACTIVE", "ACTIVE"), ("INACTIVE", "INACTIVE")]

/-- Kinds of databases. -/
def datasourceTypes : Vocabulary where
  name := "Datasource_types"
  entries := ofTexts [
    ("MSSQL", "mssql"), ("POSTGRESQL", "postgresql"), ("MYSQL", "mysql"), ("SQLITE", "sqlite"),
    ("ORACLE", "oracle")] ++
    [("ALLOWED_TYPES",
      .value (.arr [.str "mssql", .str "postgresql", .str "mysql", .str "sqlite", .str "oracle"]))]

/-- Where a server stands. -/
def serverType : Vocabulary where
  name := "ServerType"
  entries := ofTexts [
    ("ONPREMISE", "ONPREMISE"), ("CLOUD", "CLOUD")]

/-- Fields that need care when rows are written. -/
def importantKeys : Vocabulary where
  name := "ImportantKeys"
  entries := ofTexts [
    ("PASSWORD", "password")] ++
    [("KEYS_TO_CHANGE_DTYPES_TO_STR",
      .value (.arr [.str "id", .str "_sa_instance_state", .str "created_at", .str "updated_at"]))]

/-- How complex a workbook is. -/
def complexityLevel : Vocabulary where
  name := "ComplexityLevel"
  entries := ofTexts [
    ("SIMPLE", "Simple"), ("MEDIUM", "Medium"), ("COMPLEX", "Complex"),
    ("SUPER_COMPLEX", "Super complex")]

end ReportMigration.Vocabulary
