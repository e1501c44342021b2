import ReportMigration.Settings
/-!
Questions to a language model.

With one provider the caller may choose the model; with the other the deployment is fixed. Failures
to reach the model or to sign in are unsuitable values with a text of their own.
-/
namespace ReportMigration

/-- A question to a language model. -/
structure Question where
  /-- The model that is asked; the usual one if this counts as absent. -/
  model : Value
  /-- What the model is told about its task. -/
  system : Value
  /-- What the model is asked. -/
  user : Value
  /-- The form of the answer. -/
  form : Value

namespace Question

/-- A message of a role. -/
def message (role : String) (text : Value) : Value :=
  .map [("role", .text role), ("content", .list [.map [("type", .text "text"), ("text", text)]])]

/-- The settings in force with a provider. -/
def settingsFor (provider : String) : SettingsKind :=
  if provider = "azure" then .hostedModel else .model

/-- The model that is asked, in the fields of some settings. -/
def chosenModel (q : Question) (k : SettingsKind) (fields : List (String × String)) : Value :=
  match k with
  | .hostedModel => .text (fieldValue fields "deployment_name")
  | _ => q.model.orElse (.text (fieldValue fields "model_name"))

/-- The client that asks. -/
def client (k : SettingsKind) (fields : List (String × String)) : Value :=
  .map (k.clientFields.map fun n => (n, .text (fieldValue fields n)))

/-- The text of an answer. -/
def answerText (v : Value) : Except Fault Value := do
  match ← v.attr "choices" with
  | .list (c :: _) => (← c.attr "message").attr "content"
  | .list [] => throw (.failure .index "list index out of range")
  | w => throw (.wrongType ("'" ++ w.typeName ++ "' object is not subscriptable"))

/-- How failures of the model are reported. -/
def reported : Fault → Fault
  | .failed .modelConnection _ => .badValue "Issue in connecting to OpenAI API"
  | .failed .modelAuthentication _ =>
    .badValue "OpenAI key or token was invalid, expired, or revoked."
  | f => f

/-- Asks a language model. -/
def ask (q : Question) : Op Value := do
  let k := settingsFor (← Op.providerName)
  let fields := k.fields (← get).env
  let asked ← Op.attempt do
    let answer ← Op.call "openai.create" []
      [("model", q.chosenModel k fields),
        ("messages", .list [message "system" q.system, message "user" q.user]),
        ("response_format", .map [("type", q.form)]), ("client", client k fields)]
    Op.ofExcept (answerText answer)
  match asked with
  | .ok v => return v
  | .error f => throw (reported f)

end Question

end ReportMigration
