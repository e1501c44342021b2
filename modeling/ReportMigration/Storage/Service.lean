import ReportMigration.Settings
/-!
The calls that the two storage services answer. Both hold objects by key, and tell by different
errors that an object is missing. Any call can be out of order.

* `pages` cuts a listing into pages, each of which takes a call of its own;
* `Bucket` is the service with buckets;
* `Container` is the service with containers, where a copy is begun and goes on by itself.
-/
namespace ReportMigration

/-- Puts an object into the store. -/
def Op.storeObject (key : String) (c : Content) : Op Unit :=
  modify fun d => { d with store := d.store.put key c }

/-- Takes an object out of the store. -/
def Op.dropObject (key : String) : Op Unit := modify fun d => { d with store := d.store.erase key }

/-- The object of a key, or else a fault. -/
def Op.object (key : String) (missing : Fault) : Op Content := do
  match (← get).store.get? key with
  | some c => return c
  | none => throw missing

/-- The pages of a listing with their numbers, each of `size` keys but for the last. No keys take one
    empty page. -/
def pages (size : Nat) (keys : List String) : List (Nat × List String) :=
  (List.range ((keys.length - 1) / size + 1)).map fun n => (n, (keys.drop (n * size)).take size)

/-- The keys of the store with a beginning, in pages. What is stored or deleted between two pages does
    not show. -/
def Op.pagesUnder (size : Nat) (start : String) : Op (List (Nat × List String)) := do
  return pages size ((← get).store.keysUnder start)

/-- Lists page after page, where each is worked on before the next is listed. -/
def Op.foldPages {σ : Type} (start : String) (work : σ → List String → Op σ) (s : σ) :
    List (Nat × List String) → Op σ
  | [] => return s
  | (n, page) :: ps => do
    Op.reach .list start n
    Op.foldPages start work (← work s page) ps

namespace Bucket

/-- The fault of a call that failed with a code. -/
def clientError (code operation text : String) : Fault :=
  .failure .objectStore
    ("An error occurred (" ++ code ++ ") when calling the " ++ operation ++ " operation: " ++ text)

def notFound : Fault := clientError "404" "HeadObject" "Not Found"

def noKey (operation : String) : Fault :=
  clientError "NoSuchKey" operation "The specified key does not exist."

/-- How many keys a page of a listing holds. -/
def pageSize : Nat := 1000

/-- The first page of the keys with a beginning. -/
def firstPage (start : String) : Op (List String) := do
  Op.reach .list start
  return ((← get).store.keysUnder start).take pageSize

def upload (key : String) (c : Content) (attempt : Nat := 0) : Op Unit := do
  Op.reach .upload key attempt
  Op.storeObject key c

/-- Looks at an object without fetching it; `false` if it is missing. -/
def head (key : String) : Op Bool := do
  if (← get).outages.hits .head key then throw (clientError "403" "HeadObject" "Forbidden")
  Op.reach .headOther key
  return ((← get).store.get? key).isSome

/-- Fetches an object whole. -/
def download (key : String) : Op Content := do
  Op.reach .download key
  Op.object key notFound

/-- Fetches an object as a stream. -/
def fetch (key : String) : Op Content := do
  Op.reach .download key
  Op.object key (noKey "GetObject")

def copy (source target : String) : Op Unit := do
  Op.reach .copy source
  Op.storeObject target (← Op.object source (noKey "CopyObject"))

/-- Deletes an object, if there is one. -/
def delete (key : String) : Op Unit := do
  Op.reach .delete key
  Op.dropObject key

end Bucket

namespace Container

def notFound : Fault := .failure .missingObject "The specified blob does not exist."

/-- How many keys a page of a listing holds. -/
def pageSize : Nat := 5000

/-- All keys with a beginning, page after page. -/
def allKeys (start : String) : Op (List String) := do
  Op.foldPages start (fun keys page => return keys ++ page) [] (← Op.pagesUnder pageSize start)

def upload (key : String) (c : Content) (attempt : Nat := 0) : Op Unit := do
  Op.reach .upload key attempt
  Op.storeObject key c

/-- Looks at an object, after so many other looks; the answer says how the copy that made it stands. -/
def properties (key : String) (look : Nat := 0) : Op CopyState := do
  Op.reach .headOther key look
  let _ ← Op.object key notFound
  let d ← get
  if d.pendingCopies = 0 then return (d.copyCourse key).state look
  set { d with pendingCopies := d.pendingCopies - 1 }
  return .pending

def download (key : String) : Op Content := do
  Op.reach .download key
  Op.object key notFound

/-- Begins a copy, of which nothing but its end is kept: what the place holds before is not seen. -/
def copy (source target : String) : Op Unit := do
  Op.reach .copy source
  let c ← Op.object source notFound
  Op.storeObject target (((← get).copyCourse target).result c)

/-- Deletes an object, which must exist. -/
def delete (key : String) : Op Unit := do
  Op.reach .delete key
  let _ ← Op.object key notFound
  Op.dropObject key

end Container

end ReportMigration
