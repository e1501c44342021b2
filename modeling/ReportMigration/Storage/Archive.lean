import ReportMigration.Storage.Transfer
/-!
Archiving the folder of a report: every object is copied to the archive and then deleted, page by page
of the listing.

With buckets, the first failure ends it. With containers, an object is deleted even if its copy failed
or is still pending after half a minute, and objects that could not be deleted are counted.
-/
namespace ReportMigration

namespace ReportFolder

/-- Where the objects of a report lie. -/
def source (f : ReportFolder) : String :=
  "BI-Portfinal/" ++ f.orgName ++ "/" ++ f.reportId.text ++ "/"

/-- Where the objects of a report are archived. -/
def archive (f : ReportFolder) : String :=
  "BI-Portfinal/Archive/" ++ f.orgName ++ "/" ++ f.reportId.text ++ "/"

/-- The key in the archive of an object of the folder. -/
def archiveKey (f : ReportFolder) (key : String) : String :=
  f.archive ++ .ofList (key.toList.drop f.source.length)

end ReportFolder

namespace Bucket

/-- Moves objects to the archive, one after the other. -/
def archiveKeys (f : ReportFolder) : List String → Op Unit
  | [] => return ()
  | key :: keys => do
    copy key (f.archiveKey key)
    delete key
    archiveKeys f keys

/-- Archives the folder of a report. -/
def archive (f : ReportFolder) : Op Unit := do
  Op.connect .list f.source
  Op.foldPages f.source (fun _ page => archiveKeys f page) () (← Op.pagesUnder pageSize f.source)

end Bucket

namespace Container

/-- How many seconds a copy is waited for. -/
def copyLimit : Nat := 30

/-- Looks at a copy each second until it is no longer pending, for at most so many seconds; there were
    `looks` looks before. -/
def awaitCopy (key : String) (looks : Nat) : Nat → Op Unit
  | 0 => return ()
  | seconds + 1 => do
    Op.sleep 1
    if (← properties key looks) = .pending then awaitCopy key (looks + 1) seconds

/-- Copies an object to the archive and waits for it; it is deleted in any case. The answer says
    whether it could be deleted. -/
def archiveKey (f : ReportFolder) (key : String) : Op Bool := do
  let _ ← Op.attempt do
    copy key (f.archiveKey key)
    if (← properties (f.archiveKey key)) = .pending then awaitCopy (f.archiveKey key) 1 copyLimit
  Op.succeeds (delete key)

/-- Moves objects to the archive; the answer is how many could not be deleted, with `left` before. -/
def archiveKeys (f : ReportFolder) (left : Nat) : List String → Op Nat
  | [] => return left
  | key :: keys => do
    let ok ← archiveKey f key
    archiveKeys f (if ok then left else left + 1) keys

/-- Archives the folder of a report. -/
def archive (f : ReportFolder) : Op Unit := do
  Op.connect .list f.source
  let left ← Op.foldPages f.source (archiveKeys f) 0 (← Op.pagesUnder pageSize f.source)
  if left ≠ 0 then
    throw (.failure .general ("Failed to delete " ++ toString left ++ " blob(s)"))

end Container

/-- Archives the folder of a report with a provider. -/
def archiveFolder (p : Provider) (f : ReportFolder) : Op Unit :=
  match p with
  | .aws => Bucket.archive f
  | .azure => Container.archive f

/-- The provider that the environment asks for. -/
def Op.provider : Op Provider := do
  let name ← Op.providerName
  if name = "aws" then return .aws
  else if name = "azure" then return .azure
  else throw (.badValue ("Unsupported CLOUD_PROVIDER=" ++ name))

end ReportMigration
