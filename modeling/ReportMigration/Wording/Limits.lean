import ReportMigration.Wording.Constant
/-!
Limits, methods, messages and blocked mail domains.
-/
namespace ReportMigration.Wording

/-- Mail domains from which nobody is let in. -/
def blockedDomains : List String :=
  ["gmail.com", "hotmail.com", "ymail.com", "yahoo.com", "yopmail.com", "outlook.com", "live.com",
    "msn.com", "aol.com", "icloud.com", "protonmail.com", "zoho.com", "yandex.com", "qq.com"]

/-- Limits, methods, messages and blocked mail domains. -/
def limits : List (String × Constant) := [
  ("ANALYSIS_REPORT_TYPE", .text "analyzed_files"),
  ("BACKGROUND_TASK", .text "BACKGROUND_TASK"),
  ("BLACKLIST_PREFIX", .text "blacklist:jwt:"),
  ("BLOCKED_EMAILS", .value (.arr (blockedDomains.map .str))),
  ("chunk_size", .value (.int 20)),
  ("DELETE", .text "DELETE"),
  ("GET", .text "GET"),
  ("HTTP_STATUS_INTERNAL_ERROR", .value (.int 500)),
  ("HTTP_STATUS_OK", .value (.int 200)),
  ("LIMIT_EXCEEDED", .text "You have exceeded the files limit"),
  ("MAX_UPLOAD_RETRIES", .value (.int 3)),
  ("MIGRATE_REPORT_TYPE", .text "migrated_files"),
  ("MSG_S3_DOWNLOAD_FAILED", .text "Failed to download file from S3."),
  ("MSG_S3_FETCH_ERROR", .text "Problem in fetching previous data."),
  ("PATCH", .text "PATCH"),
  ("LOCAL_PREP_INPUT_SUBDIR", .path "Structured_json"),
  ("LOCAL_PREP_OUTPUT_SUBDIR", .path "Power_query"),
  ("POST", .text "POST"),
  ("RETRY_BACKOFF_BASE", .value (.int 2)),
  ("S3_URL_EXPIRATION_SECONDS", .value (.int 3600)),
  ("WORKBOOK_ID", .text "workbook_id"),
  ("PERSONAL_SPACE_PROJECT_NAME", .text "Personal Space")]

end ReportMigration.Wording
