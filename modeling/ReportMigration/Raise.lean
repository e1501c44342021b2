import ReportMigration.Signature
import ReportMigration.Value
import ReportMigration.Vocabulary.Basic
/-!
Faults made from what they are called and given, and what becomes of them at the border of the
application.

* `Fault.make` is the fault of a name with some values, or the fault of values that do not suit it;
* `guarded` hides the causes of faults from callers;
* `executed` turns a fault into a reply that carries its text and status.
-/
namespace ReportMigration

namespace RefusalKind

/-- What a refusal of a kind can be given. -/
def signature (k : RefusalKind) : Signature where
  title := k.name ++ ".__init__"
  hasReceiver := true
  parameters := match k with
    | plain => [⟨"status_code", none⟩, ⟨"detail", some .null⟩, ⟨"headers", some .null⟩]
    | general =>
      [⟨"status_code", none⟩, ⟨"detail", some .null⟩,
        ⟨"default_message", some (.str general.defaultDetail)⟩]
    | _ => [⟨"detail", some .null⟩]

/-- What statuses stand for. -/
def phrases : List (Int × String) :=
  [(100, "Continue"), (101, "Switching Protocols"), (102, "Processing"), (103, "Early Hints"),
    (200, "OK"), (201, "Created"), (202, "Accepted"), (203, "Non-Authoritative Information"),
    (204, "No Content"), (205, "Reset Content"), (206, "Partial Content"), (207, "Multi-Status"),
    (208, "Already Reported"), (226, "IM Used"), (300, "Multiple Choices"),
    (301, "Moved Permanently"), (302, "Found"), (303, "See Other"), (304, "Not Modified"),
    (305, "Use Proxy"), (307, "Temporary Redirect"), (308, "Permanent Redirect"),
    (400, "Bad Request"), (401, "Unauthorized"), (402, "Payment Required"), (403, "Forbidden"),
    (404, "Not Found"), (405, "Method Not Allowed"), (406, "Not Acceptable"),
    (407, "Proxy Authentication Required"), (408, "Request Timeout"), (409, "Conflict"),
    (410, "Gone"), (411, "Length Required"), (412, "Precondition Failed"),
    (413, "Request Entity Too Large"), (414, "Request-URI Too Long"),
    (415, "Unsupported Media Type"), (416, "Requested Range Not Satisfiable"),
    (417, "Expectation Failed"), (418, "I'm a Teapot"), (421, "Misdirected Request"),
    (422, "Unprocessable Entity"), (423, "Locked"), (424, "Failed Dependency"),
    (425, "Too Early"), (426, "Upgrade Required"), (428, "Precondition Required"),
    (429, "Too Many Requests"), (431, "Request Header Fields Too Large"),
    (451, "Unavailable For Legal Reasons"), (500, "Internal Server Error"),
    (501, "Not Implemented"), (502, "Bad Gateway"), (503, "Service Unavailable"),
    (504, "Gateway Timeout"), (505, "HTTP Version Not Supported"),
    (506, "Variant Also Negotiates"), (507, "Insufficient Storage"), (508, "Loop Detected"),
    (510, "Not Extended"), (511, "Network Authentication Required")]

/-- What a plain refusal says by its status alone. -/
def phrase (status : Json) : Except Fault String :=
  match phrases.find? fun p => status.isWorth p.1 with
  | some p => .ok p.2
  | none => .error (.badValue (status.literal ++ " is not a valid HTTPStatus"))

end RefusalKind

/-- A refusal of a kind that is given some values in order and some by name. -/
def Refusal.make (k : RefusalKind) (args : List Json) (named : List (String × Json)) :
    Except Fault Refusal := do
  let given ← k.signature.bind args named
  let value n := (Json.getField? n given).getD .null
  let status := match k with
    | .plain | .general => value "status_code"
    | _ => .int k.status
  let detail := value "detail"
  let default : Json := match k with
    | .general => value "default_message"
    | _ => .str k.defaultDetail
  let detail ← match k with
    | .plain => if detail == .null then .str <$> RefusalKind.phrase status else pure detail
    | _ => pure (if detail.isTruthy then detail else default)
  return ⟨k, status, detail, args⟩

/-- The fault of a name that is given some values in order and some by name. -/
def Fault.make (name : String) (args : List Json) (named : List (String × Json)) :
    Except Fault Fault :=
  match (RefusalKind.plain :: RefusalKind.all).find? (·.name = name) with
  | some k => (Refusal.make k args named).map .refused
  | none => .ok (.failed (.ofName name) args)

/-- A fault as callers see it: its cause stays hidden. -/
def Fault.guarded : Fault → Fault
  | .violated _ | .failed .database _ => .http 500 (.str "Database error occurred.")
  | .failed .expiredToken _ => .http 401 (.str "Token has expired")
  | _ => .http 500 (.str "An unexpected error occurred.")

/-- A result, or a fault whose cause stays hidden. -/
def guarded {α : Type} : Except Fault α → Except Fault α
  | .ok a => .ok a
  | .error f => .error f.guarded

/-- The reply that reports a fault. -/
def Fault.reply : Fault → Value
  | .refused r => .reply .null (.ofJson r.detail) (.ofJson r.status)
  | f => .reply .null (.text f.text) (.int 500)

/-- A result, or a reply that reports a fault. -/
def executed : Except Fault Value → Value
  | .ok v => v
  | .error f => f.reply

/-- What a reply of success can be given. -/
def successSignature : Signature :=
  ⟨"ServiceResponse.success", [⟨"data", none⟩, ⟨"status_code", some (.int 200)⟩], false⟩

/-- What a reply of failure can be given. -/
def failureSignature : Signature :=
  ⟨"ServiceResponse.failure", [⟨"error", none⟩, ⟨"status_code", none⟩], false⟩

/-- A reply of success or failure from the values it is given. -/
def Value.makeReply (success : Bool) (args : List Json) : Except Fault Value := do
  let given ← (if success then successSignature else failureSignature).bind args []
  let value n := Value.ofJson ((Json.getField? n given).getD .null)
  return .reply (value "data") (value "error") (value "status_code")

end ReportMigration
