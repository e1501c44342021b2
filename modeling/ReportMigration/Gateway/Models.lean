import ReportMigration.Completion
import ReportMigration.Gateway.Arguments
/-!
Requests to language models.
-/
namespace ReportMigration.Gateway

def completion : Handler := fun a => do
  let q : Question :=
    { model := a.get "model", system := a.get "system_message", user := a.get "user_message",
      form := a.get "response_format" }
  return (← q.ask).toJson

end ReportMigration.Gateway
