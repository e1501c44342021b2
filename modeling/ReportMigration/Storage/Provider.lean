import ReportMigration.Storage.Transfer
/-!
Object storage of either provider.
-/
namespace ReportMigration.Provider

def name : Provider → String
  | aws => "aws"
  | azure => "azure"

/-- The provider that the environment asks for; any name but that of the second is the first. -/
def chosen : Op Provider := do
  return if (← Op.providerName) = "azure" then azure else aws

/-- Whether an object exists. -/
def has (p : Provider) (key : String) : Op Bool :=
  match p with
  | aws => Bucket.has key
  | azure => Container.has key

/-- Downloads an object to a file. -/
def download (p : Provider) (key path : String) : Op Unit :=
  match p with
  | aws => Bucket.downloadFile key path
  | azure => Container.downloadFile key path

/-- Uploads a file, after so many other attempts; the answer says whether that succeeded. -/
def upload (p : Provider) (path key : String) (attempt : Nat := 0) : Op Bool :=
  match p with
  | aws => Bucket.uploadFile path key attempt
  | azure => Container.uploadFile path key attempt

/-- A signed address of an object that holds for an hour. -/
def signedUrl (p : Provider) (key : String) : Op (Option String) :=
  match p with
  | aws => Bucket.signedUrl key 3600
  | azure => Container.signedUrl key 3600

end ReportMigration.Provider
