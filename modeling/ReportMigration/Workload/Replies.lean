import ReportMigration.Catalogue.Address
import ReportMigration.Completion
import ReportMigration.Diagnostics.Logger
import ReportMigration.Raise
import ReportMigration.Reports.WorkFolder
import ReportMigration.Secret
import ReportMigration.Storage.Transfer
import ReportMigration.Wording.All
import ReportMigration.Workload.Basic
/-!
Workloads on what needs no catalogue: refusals and replies, credentials, work folders and settings,
and questions to a language model.
-/
namespace ReportMigration.Workload

/-! ## Refusals and replies -/

/-- The kinds of refusal that the rounds go through in turn. -/
def refusalKinds : List RefusalKind :=
  [.notFound, .authentication, .authorization, .conflict, .server, .badRequest, .validation]

/-- The statuses of the replies of three operations: one succeeds, one refuses, one fails. -/
def replyStatuses : Except Fault Json := do
  let good ← Value.makeReply true [.str "ok"]
  let replies := [executed (.ok good), executed (.error (.refuse .notFound "gone")),
    executed (.error (.failure .runtime "bad"))]
  return .arr (← replies.mapM fun r => do return (← r.attr "status_code").toJson)

/-- One round: a refusal of the next kind, one with a status of its own, two replies and the
    statuses of replies. -/
def refusalRound (i : Nat) : Except Fault (List Json) := do
  let kind := refusalKinds.getD (i % refusalKinds.length) .notFound
  let refusal ← Refusal.make kind [.str "d"] []
  let own ← Refusal.make .general [.int 418, .str "tea"] []
  let good ← Value.makeReply true [.int i]
  let bad ← Value.makeReply false [.str "err", .int 500]
  return [refusal.status, own.detail, (← good.attr "data").toJson, (← bad.attr "error").toJson,
    ← replyStatuses]

def refusals : Workload where
  name := "exceptions_and_responses"
  parameter := "n_items"
  run n := do return .arr (← rounds n fun i => Op.ofExcept (refusalRound i))

/-! ## Credentials -/

/-- The credential of a number. -/
def credential (i : Nat) : Json :=
  .obj [("name", .str ("c" ++ toString i)), ("password", .str ("secret-" ++ toString i))]

/-- The passwords of credentials that were written and read back. -/
def passwordsBack (n : Nat) : Except Fault Json := do
  let written ← Secret.encodeList (.arr ((List.range n).map credential))
  let back := (← Secret.decodeList (.ofText? written)).getD .null
  return .arr ((← back.elements).map fun c => (c.get? "password").getD .null)

def credentials : Workload where
  name := "core_encoding"
  parameter := "n_records"
  run n := Op.ofExcept (passwordsBack n.toNat)

/-! ## Work folders and settings -/

/-- The work folders of a report. -/
def folderRound (i : Nat) : List Json :=
  let id : Json := .str (Id.ofNat i).text
  [.str (WorkFolder.short id), .str (WorkFolder.analysis id), .str (WorkFolder.conversion id),
    .str (WorkFolder.migration id), .str (WorkFolder.base id)]

/-- Keys, loggers and settings. -/
def settingsRound : Op (List Json) := do
  let bucket ← Op.field .bucket "bucket_name"
  let container ← Op.field .container "container_name"
  let structures ← Op.ofExcept (Wording.supplied.get "powerbi_structure_path")
  let dialect ← Op.ofExcept (Address.dialect (some databaseAddress))
  let key ← Op.field .model "api_key"
  return [.str (Bucket.stripKey ("s3://" ++ bucket ++ "/x/y") bucket),
    .str (Container.stripKey ("blob://" ++ container ++ "/x/y") container),
    .str ((Logger.named "bench-log").setUp Logger.lineForm).name,
    .str ((Logger.named "bench-log2").setUp Logger.wideLineForm).name, structures.toJson,
    .bool (!dialect.isEmpty), .bool (!key.isEmpty), .str (← Op.field .source "token_name"),
    .str (← Op.field .token "algorithm"), .str databaseAddress]
where
  databaseAddress : String := "sqlite://"

def settings : Workload where
  name := "config_helpers"
  parameter := "n_keys"
  run n := do
    let folders ← rounds n fun i => return folderRound i
    return .arr (folders ++ (← settingsRound))

/-! ## Questions -/

/-- The text of a message. -/
def messageText (m : Value) : Except Fault String := do
  match ← m.item "content" with
  | .list (part :: _) => return (← part.item "text").display
  | _ => return ""

/-- What a model that only counts makes of a call: its name and the lengths of the messages. -/
def counted (c : Call) : Except Fault String := do
  let asked := Value.map c.named
  let messages ← (← asked.item "messages").elements
  let lengths ← messages.mapM fun m => do return toString (← messageText m).length
  return ":".intercalate ((← asked.item "model").display :: lengths)

/-- One question; its messages are longer each time, and the eighth is the longest. -/
def questionRound (i : Nat) : Op (List Json) := do
  let times := i % 8 + 1
  let text (s : String) : Value := .text (String.join (List.replicate times s))
  let question : Question :=
    { model := .null, system := text "sys", user := text "usr", form := .text "text" }
  modify fun d => { d with script := [("openai.create", .content (.text ""))] }
  discard question.ask
  match (← get).calls with
  | c :: _ => return [.str (← Op.ofExcept (counted c))]
  | [] => return []

def questions : Workload where
  name := "gpt_model"
  parameter := "n_calls"
  run n := do return .arr (← rounds n questionRound)

end ReportMigration.Workload
