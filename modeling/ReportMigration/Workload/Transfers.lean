import ReportMigration.Storage.Transfer
import ReportMigration.Workload.Basic
/-!
A workload on object storage: every transfer with each of the two services, first in order and then
during an outage. Folders are named in both of their spellings.
-/
namespace ReportMigration.Workload

/-- The folder in which the objects lie. -/
def inputFolder : String := "in"

/-- The object that is transferred. -/
def inputKey : String := inputFolder ++ "/a.twb"

/-- The folder of temporary files. -/
def temporaryFolder : String := "tmp1"

/-- The file that is uploaded. -/
def uploadPath : String := Path.join temporaryFolder "upload.twb"

/-- The text of some paths. -/
def pathsText (paths : List String) : String := (Json.arr (paths.map .str)).display

/-- The text of a text, or of nothing. -/
def optionText (s : Option String) : String := s.getD nothing

/-- The beginning of what a transfer answers. -/
def transferred (x : Op String) : Op Json := tried 16 x

/-- An outage of all storage calls, with a fault. -/
def allOut (f : Fault) : Outages where
  keys := [OutageKind.upload, .download, .copy, .delete, .list, .presign, .headOther].map
    fun k => (k, ["*"])
  fault _ _ := f

/-- A transfer during an outage, after which all is in order again. -/
def duringOutage (o : Outages) (x : Op Json) : Op Json := do
  modify fun d => { d with outages := o }
  let r ← x
  modify fun d => { d with outages := {} }
  return r

/-- A transfer in order and during an outage. -/
def bothWays (o : Outages) (x : Op String) : Op (List Json) := do
  let good ← transferred x
  return [good, ← duringOutage o (transferred x)]

/-- What every transfer starts from: a file on disk and an object in storage. -/
def stock (folder : String) : Op Unit := do
  Op.onDisk (·.makeFolders temporaryFolder)
  Op.onDisk (·.makeFolders folder)
  Op.onDisk (·.write uploadPath (.text "t"))
  Op.storeObject inputKey (.text "t")

/-- The transfers with buckets. -/
def bucketRound (folder : String) : Op (List Json) := do
  let pairs ← [
    do return flagText (← Bucket.uploadFile uploadPath "out/a.twb"),
    do return flagText (← Bucket.has inputKey),
    do return flagText (← Bucket.copyObject inputKey "out/b.twb"),
    do return flagText (← Bucket.deleteObject "out/b.twb"),
    do
      Bucket.downloadFile inputKey (Path.join folder "a.twb")
      return nothing,
    do return optionText (← Bucket.signedUrl inputKey 3600),
    do return pathsText (← Bucket.downloadWorkbooks inputFolder folder),
    do return pathsText (← Bucket.downloadWorkbook inputKey folder),
    do return pathsText (← Bucket.downloadModelInput inputFolder folder modelExtensions)].mapM
      (bothWays (allOut (.failure .runtime "down")))
  let folders ← [inputFolder, inputFolder ++ "/"].mapM fun f =>
    transferred do return pathsText (← Bucket.downloadFolder f folder)
  return pairs.flatten ++ folders

/-- The transfers with containers, where an object that is out of reach counts as missing. -/
def containerRound (folder : String) : Op (List Json) := do
  let out := allOut Container.notFound
  let pairs ← [
    do return flagText (← Container.uploadFile uploadPath "out/a.twb"),
    do return flagText (← Container.has inputKey),
    do return flagText (← Container.copyObject inputKey "out/b.twb"),
    do return flagText (← Container.deleteObject "out/b.twb"),
    do
      Container.downloadFile inputKey (Path.join folder "a.twb")
      return nothing].mapM (bothWays out)
  let workbooks ← [inputFolder, "/" ++ inputFolder].mapM fun f =>
    transferred do return pathsText (← Container.downloadWorkbooks f folder)
  let workbook ← bothWays out do return pathsText (← Container.downloadWorkbook inputKey folder)
  let inputs ← [inputFolder, inputFolder ++ "/", "none"].mapM fun f =>
    transferred do return pathsText (← Container.downloadModelInput f folder modelExtensions)
  let copied (f : String) : Op Json :=
    transferred do return pathsText (← Container.downloadFolder f folder)
  let folders ← [inputFolder, inputFolder ++ "/"].mapM copied
  let failed ← duringOutage out (copied inputFolder)
  let signed ← transferred do
    return flagText ((← Container.signedUrl inputKey 3600).any (·.startsWith "https://"))
  let key ← transferred do return Container.stripKey "blob://c/x" "c"
  return pairs.flatten ++ workbooks ++ workbook ++ inputs ++ folders ++ [failed, signed, key]

/-- All transfers of a round, into a folder of its own. -/
def transferRound (i : Nat) : Op (List Json) := do
  let folder := Path.join temporaryFolder ("dl" ++ toString i)
  stock folder
  let buckets ← bucketRound folder
  stock folder
  return buckets ++ (← containerRound folder)

/-- Rounds of transfers, where listings are read at once and all signed addresses are one. -/
def transfers : Workload where
  name := "config_async"
  parameter := "n_ops"
  run n := do
    modify fun d =>
      { d with readsListings := true, signAddress := fun _ _ _ => "http://signed" }
    return .arr (← rounds n transferRound)

end ReportMigration.Workload
