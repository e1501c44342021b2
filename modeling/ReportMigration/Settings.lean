import ReportMigration.Deployment
/-!
Settings: named groups of fields, each with a value of its own that the environment can replace by a
variable of the field's name, in capital or small letters.
-/
namespace ReportMigration

/-- The groups of settings. -/
inductive SettingsKind where
  | bucket
  | container
  | model
  | hostedModel
  | token
  | source
  deriving DecidableEq

namespace SettingsKind

def all : List SettingsKind := [bucket, container, model, hostedModel, token, source]

/-- The name that a group goes by. -/
def name : SettingsKind → String
  | bucket => "S3Config"
  | container => "BlobConfig"
  | model => "OpenAIConfig"
  | hostedModel => "AzureOpenAIConfig"
  | token => "JWTConfig"
  | source => "TableauConfig"

/-- The fields of a group with their values as deployed. -/
def defaults : SettingsKind → List (String × String)
  | bucket =>
    [("region_name", "us-east-1"), ("aws_access_key_id", "test"),
      ("aws_secret_access_key", "test"), ("endpoint_url", "http://localhost"),
      ("bucket_name", "bucket")]
  | container =>
    [("connection_string",
        "DefaultEndpointsProtocol=https;AccountName=acc;AccountKey=a2V5;EndpointSuffix=core.windows.net"),
      ("container_name", "cont")]
  | model => [("api_key", "sk-test"), ("model_name", "gpt-4o"), ("fallback_model", "gpt-4")]
  | hostedModel =>
    [("api_key", "test"), ("api_version", "2024-02-15-preview"),
      ("azure_endpoint", "https://localhost"), ("deployment_name", "gpt4"),
      ("fallback_deployment", "gpt-4")]
  | token => [("secret_key", "secret"), ("algorithm", "HS256")]
  | source =>
    [("server_url", "http://localhost"), ("token_name", "tok"), ("token_value", "val"),
      ("site_name", "site")]

/-- The fields of a group in an environment. -/
def fields (k : SettingsKind) (env : List (String × String)) : List (String × String) :=
  k.defaults.map fun (f, v) =>
    (f, ((env.find? fun e => Text.lower e.1 = f).map (·.2)).getD v)

/-- The fields that a client for a language model is made with. -/
def clientFields : SettingsKind → List String
  | model => ["api_key"]
  | hostedModel => ["api_key", "api_version", "azure_endpoint"]
  | _ => []

/-- The fields that signing in to a server takes. -/
def signInFields : SettingsKind → List String
  | source => ["token_name", "token_value", "site_name"]
  | _ => []

end SettingsKind

/-- The value of a field of settings. -/
def fieldValue (fields : List (String × String)) (name : String) : String :=
  ((fields.find? fun f => f.1 = name).map (·.2)).getD ""

/-- The value of a field of a group in the environment at hand. -/
def Op.field (k : SettingsKind) (name : String) : Op String := do
  return fieldValue (k.fields (← get).env) name

end ReportMigration
