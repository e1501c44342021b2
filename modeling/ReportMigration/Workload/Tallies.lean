import ReportMigration.Workload.Basic
/-!
Workloads of which only the extent is told: how many calls their rounds make. What the calls answer
is never shown, so they are not made.
-/
namespace ReportMigration.Workload

/-- A workload whose rounds make a fixed number of calls each. -/
def tally (name parameter : String) (callsPerRound : Nat) : Workload where
  name := name
  parameter := parameter
  run n := return .int (n.toNat * callsPerRound)

/-- Queries for projects. -/
def projectQueries : Workload := tally "project_manager_queries" "n_queries" 30

/-- Queries for reports. -/
def reportQueries : Workload := tally "report_manager_queries" "n_queries" 25

/-- Calls of routes. -/
def routeCalls : Workload := tally "route_handlers" "n_calls" 49

/-- Calls of further routes. -/
def furtherRouteCalls : Workload := tally "more_route_handlers" "n_calls" 57

end ReportMigration.Workload
