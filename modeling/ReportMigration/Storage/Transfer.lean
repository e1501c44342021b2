import ReportMigration.Storage.Service
import ReportMigration.Text.Percent
/-!
Moving objects between storage and the local disk.

For each of the two services: upload, the check that an object exists, copying, deleting, download of
one object or of all objects under a folder, and signed addresses. A download opens the local file
before it asks for the object, so that a failed one leaves a file behind, which is empty or holds what
arrived.
-/
namespace ReportMigration

/-- Whether an operation succeeded. -/
def Op.succeeds {α : Type} (x : Op α) : Op Bool := do
  match ← Op.attempt x with
  | .ok _ => return true
  | .error _ => return false

/-- Writes the object of a key as it arrives into a local file, which is made first. -/
def Op.save (path key : String) (fetch : Op Content) : Op Unit := do
  Op.onDisk (·.write path (.text ""))
  let c ← fetch
  let outages := (← get).outages
  match outages.part key with
  | none => Op.onDisk (·.write path c)
  | some part =>
    Op.onDisk (·.write path part)
    throw (outages.fault .download key)

/-- Writes the object of a key into a local file once it has arrived. -/
def Op.saveWhole (path key : String) (fetch : Op Content) : Op Unit := do
  let c ← fetch
  let outages := (← get).outages
  if (outages.part key).isSome then throw (outages.fault .download key)
  Op.onDisk (·.write path c)

/-- The fault of an operation that could not report what went wrong with a download. -/
def downloadFault : Fault :=
  .wrongType "BadRequestError.__init__() got an unexpected keyword argument 'status_code'"

/-- The answer when earlier data cannot be fetched. -/
def fetchFault : Fault := .http 500 (.str "Problem in fetching previous data.")

/-- A folder's beginning of keys: its name and one slash. -/
def folderStart (folder : String) : String :=
  .ofList (Text.dropTrailing (· = '/') folder.toList) ++ "/"

/-- Whether a name is that of a file with one of the extensions; no extensions allow all files. -/
def hasExtension (extensions : List String) (name : String) : Bool :=
  !name.isEmpty &&
    (extensions.isEmpty || extensions.contains (Text.lower (Path.suffix name)))

/-- The extensions of the files that a semantic model is made from. -/
def modelExtensions : List String := [".twb", ".csv", ".xlsx"]

/-- Saves the objects of some keys in a folder, each under the last part of its key, and gives the
    paths of those that were saved. -/
def saveAll (folder : String) (save : String → String → Op Unit) : List String → Op (List String)
  | [] => return []
  | key :: keys => do
    let path := Path.join folder (Path.baseName key)
    let ok ← Op.succeeds (save key path)
    let rest ← saveAll folder save keys
    return if ok then path :: rest else rest

namespace Bucket

/-- Uploads a local file, after so many other attempts; the answer says whether that succeeded. -/
def uploadFile (path key : String) (attempt : Nat := 0) : Op Bool := Op.succeeds do
  Op.connect .upload key attempt
  let c ← Op.ofDisk (·.read path)
  upload key c attempt

/-- Whether an object exists. -/
def has (key : String) : Op Bool := do
  Op.connect .headOther key
  head key

/-- Copies an object; the answer says whether that succeeded. -/
def copyObject (source target : String) : Op Bool := Op.succeeds do
  Op.connect .copy source
  copy source target

/-- Deletes an object; the answer says whether that succeeded. -/
def deleteObject (key : String) : Op Bool := Op.succeeds do
  Op.connect .delete key
  delete key

/-- Downloads an object to a file, whose folder is made. -/
def downloadFile (key path : String) : Op Unit := do
  let done ← Op.succeeds do
    Op.onDisk (·.makeFolders (Path.dirName path))
    Op.connect .download key
    Op.save path key (download key)
  if !done then throw downloadFault

/-- A signed address of an object that holds for some seconds. -/
def signedUrl (key : String) (seconds : Int) : Op (Option String) := do
  match ← Op.attempt (do Op.connect .presign key; Op.reach .presign key) with
  | .error _ => return none
  | .ok () =>
    let bucket ← Op.field .bucket "bucket_name"
    return some ((← get).signAddress bucket key seconds)

/-- Saves the objects of some keys in a folder; the first that fails ends it. -/
def saveEach (folder : String) : List String → Op (List String)
  | [] => return []
  | key :: keys => do
    let path := Path.join folder (Path.baseName key)
    Op.saveWhole path key (download key)
    return path :: (← saveEach folder keys)

/-- Downloads the objects under a folder, as many as a page of a listing holds. -/
def downloadWorkbooks (folder target : String) : Op (List String) := do
  let go ← Op.attempt do
    let start := Text.trimLeading (· = '/') folder
    Op.connect .list start
    let keys ← firstPage start
    if keys.isEmpty then throw (.http 400 (.str "No files found in S3 input path"))
    saveEach target keys
  match go with
  | .ok paths => return paths
  | .error e => throw (.http 500 (.str ("Problem in fetching previous data: " ++ e.text)))

/-- Downloads one object into a folder under the last part of its key. -/
def downloadWorkbook (key folder : String) : Op (List String) := do
  let path := Path.below folder (Path.lastName key)
  let done ← Op.succeeds do
    Op.onDisk (·.makeFolders (Path.tidy folder))
    Op.connect .download key
    Op.save path key (download key)
  if done then return [path] else throw fetchFault

/-- Downloads the objects on the first page of a folder that have one of the extensions. -/
def downloadModelInput (folder target : String) (extensions : List String) :
    Op (List String) := do
  let go ← Op.attempt do
    Op.onDisk (·.makeFolders target)
    Op.connect .list (folderStart folder)
    let keys ← firstPage (folderStart folder)
    saveAll target (fun key path => Op.save path key (fetch key))
      (keys.filter fun k => hasExtension extensions (Path.baseName k))
  match go with
  | .ok paths => return paths
  | .error _ =>
    throw (.http 500 (.str "Failed to download semantic model input files from S3"))

/-- Saves the objects of the pages of a listing in a folder, each page before the next is listed, where
    those of earlier pages were saved as `done`; an empty page ends it, and then nothing counts as
    saved. -/
def savePages (start folder : String) (done : List String) :
    List (Nat × List String) → Op (List String)
  | [] => return done
  | (n, page) :: ps => do
    Op.reach .list start n
    if page.isEmpty then return []
    let paths ← saveAll folder (fun key path => Op.save path key (fetch key)) page
    savePages start folder (done ++ paths) ps

/-- Downloads all objects under a folder, as far as possible. -/
def downloadFolder (folder target : String) : Op (List String) := do
  let go ← Op.attempt do
    Op.onDisk (·.makeFolders target)
    Op.connect .list (folderStart folder)
    savePages (folderStart folder) target [] (← Op.pagesUnder pageSize (folderStart folder))
  match go with
  | .ok paths => return paths
  | .error e =>
    throw (.http 500 (.str ("Error in downloading files to local path: " ++ e.text)))

/-- The key in the full name of an object. -/
def stripKey (name bucket : String) : String := name.replace ("s3://" ++ bucket ++ "/") ""

end Bucket

namespace Container

/-- The fault of an operation that has to close a connection which was never opened. -/
def neverOpened : Fault :=
  .failure .unbound
    "cannot access local variable 'blob_service_client' where it is not associated with a value"

/-- Opens a connection for a call, which is closed afterwards. -/
def opened (kind : OutageKind) (key : String) (turn : Nat := 0) : Op Unit := do
  if !(← Op.succeeds (Op.connect kind key turn)) then throw neverOpened

/-- Makes a folder before the connection is opened. -/
def makeFolders (path : String) : Op Unit := do
  if !(← Op.succeeds (Op.onDisk (·.makeFolders path))) then throw neverOpened

/-- Uploads a local file, after so many other attempts; the answer says whether that succeeded. -/
def uploadFile (path key : String) (attempt : Nat := 0) : Op Bool := Op.succeeds do
  opened .upload key attempt
  let c ← Op.ofDisk (·.read path)
  upload key c attempt

/-- Whether an object exists. -/
def has (key : String) : Op Bool := do
  opened .headOther key
  match ← Op.attempt (properties key) with
  | .ok _ => return true
  | .error (.failed .missingObject _) => return false
  | .error e => throw e

/-- Copies an object; the answer says whether that succeeded. -/
def copyObject (source target : String) : Op Bool := Op.succeeds do
  opened .copy source
  copy source target

/-- Deletes an object; the answer says whether that succeeded. -/
def deleteObject (key : String) : Op Bool := Op.succeeds do
  opened .delete key
  delete key

/-- Downloads an object to a file, whose folder is made. -/
def downloadFile (key path : String) : Op Unit := do
  let done ← Op.succeeds do
    makeFolders (Path.dirName path)
    opened .download key
    Op.save path key (download key)
  if !done then throw downloadFault

/-- The fields of a connection string, each a name and a value on both sides of the first equals sign
    between two semicolons. What has no equals sign is passed over. -/
def connectionFields (connection : String) : List (String × String) :=
  (connection.toList.splitOn ';').filterMap fun item =>
    if item.contains '=' then
      some (.ofList (item.takeWhile (· ≠ '=')), .ofList ((item.dropWhile (· ≠ '=')).drop 1))
    else none

/-- The value of a field; of several with one name the last counts. -/
def lastValue? (fields : List (String × String)) (name : String) : Option String :=
  (fields.reverse.find? fun f => f.1 = name).map (·.2)

/-- The address of an object of an account in a container. -/
def address (account container key : String) : String :=
  "https://" ++ account ++ ".blob.core.windows.net/" ++ container ++ "/" ++ Percent.encode key

/-- A signed address of an object that holds for some seconds, if the connection string names an
    account and its key. -/
def signedUrl (key : String) (seconds : Int) : Op (Option String) := do
  let fields := connectionFields (← Op.field .container "connection_string")
  let container ← Op.field .container "container_name"
  let account := (lastValue? fields "AccountName").getD ""
  let accountKey := (lastValue? fields "AccountKey").getD ""
  if account.isEmpty || accountKey.isEmpty then return none
  let start ← Op.now
  let expiry := start.addSeconds seconds
  if !expiry.isOnCalendar then return none
  if !(← Op.succeeds (Op.reach .presign key)) then return none
  let token := (← get).signToken ⟨account, accountKey, container, key, start, expiry⟩
  return some (address account container key ++ "?" ++ token)

/-- A listing that is read at once, where that is possible. -/
def listAtOnce (start : String) : Op (List String) := do
  let keys ← allKeys start
  if !(← get).readsListings then throw (.wrongType "'AsyncItemPaged' object is not iterable")
  return keys

/-- Saves the objects of some keys in a folder; the first that fails ends it. -/
def saveEach (folder : String) : List String → Op (List String)
  | [] => return []
  | key :: keys => do
    let path := Path.join folder (Path.baseName key)
    Op.save path key (download key)
    return path :: (← saveEach folder keys)

/-- Downloads all objects under a folder. -/
def downloadWorkbooks (folder target : String) : Op (List String) := do
  let go ← Op.attempt do
    let start := Text.trimLeading (· = '/') folder
    opened .list start
    let keys ← listAtOnce start
    if keys.isEmpty then throw (.http 400 (.str "No files found in Blob input path"))
    saveEach target keys
  match go with
  | .ok paths => return paths
  | .error e => throw (.http 500 (.str ("Problem in fetching previous data: " ++ e.text)))

/-- Downloads one object into a folder under the last part of its key. -/
def downloadWorkbook (key folder : String) : Op (List String) := do
  let path := Path.below folder (Path.lastName key)
  let done ← Op.succeeds do
    makeFolders (Path.tidy folder)
    opened .download key
    Op.save path key (download key)
  if done then return [path] else throw fetchFault

/-- Downloads the objects under a folder that have one of the extensions. -/
def downloadModelInput (folder target : String) (extensions : List String) :
    Op (List String) := do
  let go ← Op.attempt do
    makeFolders target
    opened .list (folderStart folder)
    let keys ← listAtOnce (folderStart folder)
    saveAll target (fun key path => Op.save path key (download key))
      (keys.filter fun k => hasExtension extensions (Path.baseName k))
  match go with
  | .ok paths => return paths
  | .error _ =>
    throw (.http 500 (.str "Failed to download semantic model input files from Blob"))

/-- Downloads all objects under a folder, as far as possible. -/
def downloadFolder (folder target : String) : Op (List String) := do
  let go ← Op.attempt do
    makeFolders target
    opened .list (folderStart folder)
    let keys ← allKeys (folderStart folder)
    saveAll target downloadFile keys
  match go with
  | .ok paths => return paths
  | .error _ =>
    throw (.http 500 (.str "Error occured in Images downloading to the local path"))

/-- The key in the full name of an object. -/
def stripKey (name container : String) : String := name.replace ("blob://" ++ container ++ "/") ""

end Container

end ReportMigration
