import ReportMigration.Catalogue.Database
import ReportMigration.Storage.ObjectStore
import ReportMigration.Value
/-!
The deployment that operations run in, and operations as steps on it.

A `Deployment` holds the catalogue, object storage, the files of the machine, the environment, and
what stands for the outside: a clock, a source of identifiers, storage calls that are out of order,
and scripted answers of services. An `Op` runs on it and either answers or fails; what it did before
failing stays done, unless `Op.transaction` takes it back.
-/
namespace ReportMigration

/-- The storage calls that can be out of order. -/
inductive OutageKind where
  | connect
  | upload
  | download
  | copy
  | delete
  | list
  | presign
  /-- The look at an object, with a failure of no particular kind. -/
  | headOther
  /-- The look at an object, which is forbidden. -/
  | head
  deriving DecidableEq

def OutageKind.name : OutageKind → String
  | connect => "connect"
  | upload => "upload"
  | download => "download"
  | copy => "copy"
  | delete => "delete"
  | list => "list"
  | presign => "presign"
  | headOther => "head_other"
  | head => "head"

/-- Which storage calls fail. A call is known by its kind, its key and its turn: the number of calls of
    the kind for the key that come before it in an operation, such as earlier pages of a listing,
    earlier looks at a copy or earlier attempts at an upload. -/
structure Outages where
  /-- For a kind of call the keys for which it always fails, where a star stands for every key. -/
  keys : List (OutageKind × List String) := []
  /-- The calls that fail besides. -/
  passing : OutageKind → String → Nat → Bool := fun _ _ _ => false
  /-- The calls for which no connection can be opened. -/
  cut : OutageKind → String → Nat → Bool := fun _ _ _ => false
  /-- What arrives of an object whose stream breaks off. -/
  part : String → Option Content := fun _ => none
  /-- What a call on a key fails with. -/
  fault : OutageKind → String → Fault := fun kind key =>
    .failure .general ("injected " ++ kind.name ++ " failure for " ++ key)

namespace Outages

/-- Whether all calls of a kind for a key fail. -/
def always (o : Outages) (kind : OutageKind) (key : String) : Bool :=
  o.keys.any fun (k, ks) => k = kind && (ks.contains key || (kind ≠ .head && ks.contains "*"))

/-- Whether a call fails. -/
def hits (o : Outages) (kind : OutageKind) (key : String) (turn : Nat := 0) : Bool :=
  o.always kind key || o.passing kind key turn

/-- Whether the service cannot be reached for a call. -/
def unreachable (o : Outages) (kind : OutageKind) (key : String) (turn : Nat := 0) : Bool :=
  o.always .connect "" || o.cut kind key turn

end Outages

/-- How a copy stands. -/
inductive CopyState where
  | pending
  | success
  | failed
  | aborted
  deriving DecidableEq

/-- The course of a copy inside a container. It goes on by itself once it was begun: each look at it
    may find it in another state, and in the end its place holds the content that was copied or what
    else became of it. A copy that was seen to have succeeded is complete. -/
structure CopyCourse where
  state : Nat → CopyState
  result : Content → Content
  complete : ∀ look, state look = .success → ∀ c, result c = c

/-- The course of a copy that succeeds at once. -/
def CopyCourse.prompt : CopyCourse where
  state := fun _ => .success
  result := id
  complete := fun _ _ _ => rfl

/-- A program that makes files out of the file at a path, the first of them at a second path. It may
    fail, and what it did to the files before stays done. -/
abbrev Tool := String → String → Disk → Except Fault Unit × Disk

namespace Tool

/-- The tool that copies its file to some paths, one after the other. -/
def copying (targets : String → List String) : Tool := fun source target disk =>
  go source (targets target) disk
where
  go (source : String) : List String → Disk → Except Fault Unit × Disk
    | [], disk => (.ok (), disk)
    | path :: paths, disk =>
      match disk.read source >>= disk.write path with
      | .ok disk' => go source paths disk'
      | .error f => (.error f, disk)

end Tool

/-- What a service does when it is called. -/
inductive Outcome where
  | value (v : Value)
  /-- It answers one of its arguments. -/
  | echo (i : Nat)
  /-- A language model answers with a text. -/
  | content (v : Value)
  | raise (f : Fault)

/-- A call of a service. -/
structure Call where
  name : String
  args : List Value := []
  named : List (String × Value) := []

/-- Which object storage is in use. -/
inductive Provider where
  | aws
  | azure
  deriving DecidableEq

/-- The folder of a report in object storage. -/
structure ReportFolder where
  orgName : String
  reportId : Id

/-- Work to be done after an answer. -/
structure Task where
  name : String
  args : List Value := []
  /-- A report's folder to be archived. -/
  archive : Option (Provider × ReportFolder) := none

/-- What a token is asked for: the object of a key in a container that may be read from `start` to
    `expiry`, in the name of an account. -/
structure TokenRequest where
  account : String
  accountKey : String
  container : String
  key : String
  start : Timestamp
  expiry : Timestamp

/-- Everything that operations can see and change. -/
structure Deployment where
  db : Database := {}
  /-- How many identifiers were drawn. -/
  drawn : Nat := 0
  /-- How often the clock was read. -/
  ticks : Nat := 0
  store : ObjectStore := .empty
  outages : Outages := {}
  /-- Whether the listing of a container can be read at once. -/
  readsListings : Bool := false
  /-- The signed address of a key in a bucket for some seconds. -/
  signAddress : String → String → Int → String := fun bucket key seconds =>
    "s3-signed:get_object:" ++ bucket ++ "/" ++ key ++ "?expires=" ++ toString seconds
  /-- The token for an object in a container. -/
  signToken : TokenRequest → String := fun r =>
    "sas=" ++ ":".intercalate [r.account, r.container, r.key, r.accountKey, "r",
      r.start.isoSeconds ++ "Z", r.expiry.isoSeconds ++ "Z"]
  /-- The course of the copy to a key. -/
  copyCourse : String → CopyCourse := fun _ => .prompt
  /-- How many further looks at copied objects are answered before their courses show. Until then every
      copy is pending. -/
  pendingCopies : Nat := 0
  /-- The seconds after which a folder is archived, given how many of them are spent asleep. -/
  archiveSeconds : ReportFolder → Nat → Nat := fun _ _ => 0
  /-- The seconds slept, the last first. -/
  sleeps : List Nat := []
  disk : Disk := {}
  /-- Brings a flow of the older form into that of the newer one. -/
  converter : Tool := .copying fun target => [target]
  /-- Makes the two documents of a flow. -/
  documenter : Tool := .copying fun target => [target, Path.withSuffix target ".docx"]
  env : List (String × String) := []
  /-- What is kept of a password. -/
  hashPassword : String → String := fun p => "hashed:" ++ p
  /-- Whether a password goes with what is kept of one. -/
  verifies : String → String → Bool := fun p kept => kept = "hashed:" ++ p
  /-- A project with its usage, as the client of its site works it out. -/
  gauge : List (String × Value) → Except Fault (List (String × Value)) := fun fs =>
    .ok <| match Value.field? "views" fs with
      | some n => Value.setField "usage" n fs
      | none => fs
  script : List (String × Outcome) := []
  /-- The calls of services, the last first. -/
  calls : List Call := []
  /-- The work added for later, the last first. -/
  tasks : List Task := []

/-- A step on a deployment, which answers or fails. -/
abbrev Op (α : Type) := ExceptT Fault (StateM Deployment) α

namespace Op

variable {α : Type}

/-- Runs an operation. -/
def exec (x : Op α) (d : Deployment) : Except Fault α × Deployment := (ExceptT.run x).run d

/-- The outcome of an operation that may fail, as a value. -/
def attempt (x : Op α) : Op (Except Fault α) := fun d =>
  let (r, d) := x.exec d
  (.ok r, d)

/-- The operation with an answer or failure already known. -/
def ofExcept : Except Fault α → Op α
  | .ok a => pure a
  | .error f => throw f

/-- An operation after which the catalogue is as before if it failed. -/
def transaction (x : Op α) : Op α := fun d =>
  match x.exec d with
  | (.ok a, d') => (.ok a, d')
  | (.error f, d') => (.error f, { d' with db := d.db })

/-- An operation after which the catalogue is as before in any case. -/
def discarding (x : Op α) : Op α := fun d =>
  let (r, d') := x.exec d
  (r, { d' with db := d.db })

/-- The catalogue. -/
def db : Op Database := return (← get).db

/-- Writes to the catalogue. -/
def write (f : Database → Except Fault Database) : Op Unit := do
  let d ← get
  match f d.db with
  | .ok db => set { d with db := db }
  | .error e => throw e

/-- Changes the catalogue in a way that always succeeds. -/
def change (f : Database → Database) : Op Unit := modify fun d => { d with db := f d.db }

/-- Draws an identifier. -/
def drawId : Op Id := do
  modify fun d => { d with drawn := d.drawn + 1 }
  return .drawn (← get).drawn

/-- Reads the clock, which goes on by one second. -/
def now : Op Timestamp := do
  modify fun d => { d with ticks := d.ticks + 1 }
  return Timestamp.epoch.addSeconds (← get).ticks

/-- Sleeps for some seconds. -/
def sleep (seconds : Nat) : Op Unit := modify fun d => { d with sleeps := seconds :: d.sleeps }

/-- The value of an environment variable. -/
def setting? (name : String) : Op (Option String) := do
  return ((← get).env.find? fun e => e.1 = name).map (·.2)

/-- The name of the storage provider that the environment asks for. -/
def providerName : Op String := do
  return Text.trim (Text.lower ((← setting? "CLOUD_PROVIDER").getD "aws"))

/-- Fails if a storage call is out of order. -/
def reach (kind : OutageKind) (key : String) (turn : Nat := 0) : Op Unit := do
  let outages := (← get).outages
  if outages.hits kind key turn then throw (outages.fault kind key)

/-- Opens a storage service for a call. -/
def connect (kind : OutageKind) (key : String) (turn : Nat := 0) : Op Unit := do
  let outages := (← get).outages
  if outages.unreachable kind key turn then throw (outages.fault .connect "")

/-- Has a tool work on the files. -/
def employ (tool : Tool) (source target : String) : Op Unit := fun d =>
  let (r, disk) := tool source target d.disk
  (r, { d with disk := disk })

/-- Notes a call of a service. -/
def record (c : Call) : Op Unit := modify fun d => { d with calls := c :: d.calls }

/-- Calls a service. -/
def call (name : String) (args : List Value := []) (named : List (String × Value) := []) :
    Op Value := do
  record ⟨name, args, named⟩
  let d ← get
  let outcome := (d.script.find? fun s => s.1 = name).orElse fun _ =>
    d.script.find? fun s => s.1 = "*"
  match outcome with
  | none => return .null
  | some (_, .value v) => return v
  | some (_, .content v) =>
    return .record [("choices", .list [.record [("message", .record [("content", v)])]])]
  | some (_, .echo i) => return args.getD i .null
  | some (_, .raise f) => throw f

/-- Adds work for later. -/
def later (t : Task) : Op Unit := modify fun d => { d with tasks := t :: d.tasks }

/-- Acts on the files. -/
def onDisk (f : Disk → Except Fault Disk) : Op Unit := do
  let d ← get
  match f d.disk with
  | .ok disk => set { d with disk := disk }
  | .error e => throw e

/-- Looks at the files. -/
def ofDisk (f : Disk → Except Fault α) : Op α := do
  ofExcept (f (← get).disk)

end Op

end ReportMigration
