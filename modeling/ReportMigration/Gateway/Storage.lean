import ReportMigration.Gateway.Answer
import ReportMigration.Gateway.Arguments
import ReportMigration.Storage.Archive
/-!
Requests to the two storage services.
-/
namespace ReportMigration.Gateway

open Answer

/-- The extensions that a request asks for. -/
def wantedExtensions (a : Arguments) : List String :=
  if a.has "allowed_extensions" then (a.items "allowed_extensions").map (·.display)
  else modelExtensions

/-- For how many seconds a signed address holds. -/
def lifetime (a : Arguments) : Int := a.int "expiration" 3600

/-- The folder on the local disk that a request names. -/
def target (a : Arguments) : String := a.text "local_download_path"

namespace Bucket

def upload : Handler := fun a => do
  return .bool (← ReportMigration.Bucket.uploadFile (a.text "file_path") (a.text "object_name"))

def has : Handler := fun a => do return .bool (← ReportMigration.Bucket.has (a.text "object_name"))

def copy : Handler := fun a => do
  return .bool (← ReportMigration.Bucket.copyObject (a.text "source_key") (a.text "destination_key"))

def delete : Handler := fun a => do return .bool (← ReportMigration.Bucket.deleteObject (a.text "object_key"))

def download : Handler := fun a => do
  ReportMigration.Bucket.downloadFile (a.text "object_name") (a.text "file_path")
  return .null

def signedUrl : Handler := fun a => do
  return .ofText? (← ReportMigration.Bucket.signedUrl (a.text "object_key") (lifetime a))

def workbooks : Handler := fun a => do
  return texts (← ReportMigration.Bucket.downloadWorkbooks (a.text "s3_input_path") (target a))

def workbook : Handler := fun a => do
  return texts (← ReportMigration.Bucket.downloadWorkbook (a.text "s3_key") (target a))

def modelInput : Handler := fun a => do
  return texts
    (← ReportMigration.Bucket.downloadModelInput (a.text "s3_input_prefix") (target a) (wantedExtensions a))

def folder : Handler := fun a => do
  return texts
    (← ReportMigration.Bucket.downloadFolder (a.text "s3_folder_prefix") (a.text "local_path_for_copy"))

end Bucket

namespace Container

def upload : Handler := fun a => do
  return .bool (← ReportMigration.Container.uploadFile (a.text "file_path") (a.text "object_name"))

def has : Handler := fun a => do return .bool (← ReportMigration.Container.has (a.text "object_name"))

def copy : Handler := fun a => do
  return .bool (← ReportMigration.Container.copyObject (a.text "source_key") (a.text "destination_key"))

def delete : Handler := fun a => do return .bool (← ReportMigration.Container.deleteObject (a.text "object_key"))

def download : Handler := fun a => do
  ReportMigration.Container.downloadFile (a.text "object_name") (a.text "file_path")
  return .null

def signedUrl : Handler := fun a => do
  return .ofText? (← ReportMigration.Container.signedUrl (a.text "object_key") (lifetime a))

def workbooks : Handler := fun a => do
  return texts (← ReportMigration.Container.downloadWorkbooks (a.text "blob_input_path") (target a))

def workbook : Handler := fun a => do
  return texts (← ReportMigration.Container.downloadWorkbook (a.text "blob_key") (target a))

def modelInput : Handler := fun a => do
  return texts
    (← ReportMigration.Container.downloadModelInput (a.text "blob_input_prefix") (target a)
      (wantedExtensions a))

def folder : Handler := fun a => do
  return texts
    (← ReportMigration.Container.downloadFolder (a.text "blob_folder_key") (a.text "local_path_for_copy"))

end Container

end ReportMigration.Gateway
