import ReportMigration.Wording.Constant
/-!
Where things are kept: paths on disk, keys in object storage and addresses of services.
-/
namespace ReportMigration.Wording

/-- Paths on disk and keys in object storage. -/
def paths : List (String × Constant) := [
  ("S3_BASE_PATH", .text "BI-Portfinal/\x7borganization_name\x7d/\x7bs3_report_id\x7d"),
  ("REPORT_PATH", .text "BI-Portfinal/\x7borganization_name\x7d/\x7bs3_report_id\x7d/tableau_file"),
  ("ANALYZED_OUTPUTS_PATH",
    .text "BI-Portfinal/\x7borganization_name\x7d/\x7bs3_report_id\x7d/analyzed_outputs"),
  ("CONVERTED_OUTPUTS_PATH",
    .text "BI-Portfinal/\x7borganization_name\x7d/\x7bs3_report_id\x7d/converted_outputs"),
  ("MIGRATE_OUTPUTS_PATH",
    .text "BI-Portfinal/\x7borganization_name\x7d/\x7bs3_report_id\x7d/migrate_outputs"),
  ("SEMANTIC_MODEL_OUTPUT_PATH",
    .text "BI-Portfinal/\x7borganization_name\x7d/\x7bs3_report_id\x7d/semantic_model"),
  ("SEMANTIC_UPLOAD_PATH", .joined [
    "BI-Portfinal/\x7borganization_name\x7d/\x7bs3_report_id\x7d/semantic_uploads/",
    "\x7bzip_filename\x7d"]),
  ("ANALYZED_OUTPUTS_DIR", .text "analyzed_outputs"),
  ("CONVERTED_OUTPUTS_DIR", .text "converted_outputs"),
  ("MIGRATE_OUTPUT_DIR", .text "migrate_outputs"),
  ("SEMANTIC_DATASOURCES_FILE", .text "data_sources.json"),
  ("LOCAL_DATASOURCES_PATH", .text "temp_datasources"),
  ("ANALYZED_WORKBOOK_FILE_PATH", .text "\x7bworkbook_name\x7d_report_\x7bprefix\x7d"),
  ("ANALYZED_S3_FILE_PATH", .text "\x7bworkbook_name\x7d_report"),
  ("ANALYZED_S3_ZIP_PATH",
    .text "\x7bWORKBOOKS_PATH\x7d/\x7bANALYZED_OUTPUTS_DIR\x7d/\x7bworkbook_id\x7d.zip"),
  ("ANALYZED_CALCULATIONS_S3_PATH",
    .text "\x7bs3_base\x7d/analyzed_outputs/\x7breport_name\x7d_report.zip"),
  ("ClOUD_WORKBOOKS_PATH", .text "My_workspace/workbooks/"),
  ("CLOUD_SITE_DISCOVERY_DIR", .text "Site_discoveries/"),
  ("FILE_TYPE", .text "json"),
  ("FLOW_FILE_NAME", .text "flow"),
  ("INPUT_FILES_DIR", .text "input_files"),
  ("LOCAL_DIR", .text "static"),
  ("LOCAL_DOWNLOAD_PATH",
    .text "./storage/\x7borganization_name\x7d/\x7buser_email\x7d/\x7bprocess_id\x7d/twb_files"),
  ("LOCAL_WORKBOOKS_DOWNLOAD_PATH",
    .text "./storage/My_workspace/workbooks/\x7bworkbook_id\x7d/twb_files"),
  ("STORAGE_BASE_DIR", .path "storage"),
  ("LOCAL_S3_FILES_DOWNLOAD_PATH", .text "./storage/\x7bworkbook_id\x7d/twb_files"),
  ("LOCAL_POWER_BI_PATH", .path "powerbi_structure"),
  ("WORKBOOKS_PATH", .text "My_workspace/workbooks"),
  ("POWER_BI_STRUCTURE", .joined [
    "BI-Portfinal/\x7borganization_name\x7d/\x7bs3_report_id\x7d/semantic_uploads/",
    "\x7breport_name\x7d_\x7bshort_report_id\x7d_sem.zip"]),
  ("PREP_FILE_OUTPUT_DIR", .text "Prep_file_outputs"),
  ("PARSED_FLOW_FILENAME", .text "parsed_flow.json"),
  ("POWER_BI_PATH", .text "Prep_files/powerbi/Superstore_prep.zip"),
  ("S3_INPUT_PATH",
    .text "\x7borganization_name\x7d/\x7buser_email\x7d/\x7bprocess_id\x7d/input_files"),
  ("S3_WORKBOOKS_PATH", .text "My_workspace/workbooks/\x7bworkbook_id\x7d.twb"),
  ("S3_PREP_INPUT_FILE_PATH", .text "Prep_files"),
  ("S3_PREP_INPUT_FOLDER", .text "Prep_files/Structured_json"),
  ("S3_PREP_OUTPUT_FOLDER", .text "Prep_files/power_query"),
  ("S3_PATH", .text "s3_path"),
  ("MIGRATE_S3_ZIP_PATH", .joined [
    "BI-Portfinal/\x7borganization_name\x7d/\x7bs3_report_id\x7d/\x7bMIGRATE_OUTPUT_DIR\x7d/",
    "\x7breport_name\x7d.zip"]),
  ("HYPER_FILES_PATH", .path "storage/extracted"),
  ("TOO_MANY_FILES",
    .text "You are allowed for only \x7bremaining_allowed_files\x7d file(s) for migration"),
  ("PBI_ENV_ZIP_S3_PATH", .text "semantic_model_test/PBI_ENV.zip"),
  ("LOGO_PATH", .text "BI-Portfinal/global/assets/logo.png")]

/-- Addresses of services. -/
def addresses : List (String × Constant) := [
  ("PROJECTS_URL", .text "\x7bserver_url\x7d/api/\x7bversion\x7d/sites/\x7bsite_id\x7d/projects"),
  ("S3_ENDPOINT_FORMAT", .text "https://s3.\x7bregion\x7d.amazonaws.com"),
  ("SIGN_IN_URL", .text "\x7bserver\x7d/api/\x7bversion\x7d/auth/signin"),
  ("TABLEAU_VERSION", .text "3.25"),
  ("WORKBOOK_DOWNLOAD_URL", .joined [
    "\x7bserver_url\x7d/api/\x7bversion\x7d/sites/\x7bsite_id\x7d/workbooks/\x7bworkbook_id\x7d/",
    "content"]),
  ("WORKBOOK_URL", .text "\x7bserver_url\x7d/api/\x7bversion\x7d/sites/\x7bsite_id\x7d/workbooks"),
  ("WORKBOOK_DETAILS_URL", .joined [
    "\x7bserver_url\x7d/api/\x7bversion\x7d/sites/\x7bsite_id\x7d/workbooks/\x7bworkbook_id\x7d"]),
  ("WORKBOOK_USAGE_STATISTICS_URL",
    .text "\x7bserver_url\x7d/api/-/content/usage-stats/workbooks/\x7bworkbook_id\x7d"),
  ("XMLNS", .value (.obj [("t", .str "http://tableau.com/api")]))]

end ReportMigration.Wording
