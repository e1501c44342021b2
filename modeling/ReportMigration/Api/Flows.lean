import ReportMigration.Api.Response
import ReportMigration.Flows.Package
/-!
Routes for preparation flows.
-/
namespace ReportMigration.Api

def extractFlow : RouteHandler := fun a => do
  match a.get "uploaded_file" with
  | .file name content => return .plain (← Flow.extract name content)
  | v => throw (.noAttribute v.typeName "filename")

def packageFlow : RouteHandler := fun a => do
  return .plain (← Flow.package (a.get "request"))

def flows : List Route :=
  [⟨.post, "/prep_files/extract_flow_structure", "extract_flow_structure", extractFlow⟩,
    ⟨.post, "/prep_files/generate_power_query", "generate_power_query_enhanced", packageFlow⟩]

end ReportMigration.Api
