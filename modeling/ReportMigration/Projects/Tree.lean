import ReportMigration.Projects.Access
/-!
The projects as a forest.

Every project names its parent or none. `Database.subtree` lists what lies below a project,
`Database.ancestry` what lies above it. Both take as many steps as there are projects, which is
enough whenever no project lies above itself; where one does, there is no end to what lies below it,
and `Database.subtree` fails.

* the path of a report names the projects from its root down;
* the inventory counts the reports below each root.
-/
namespace ReportMigration

/-- A way down that never ends. -/
def Fault.endless : Fault :=
  failure (.named "RecursionError") "maximum recursion depth exceeded"

namespace Database

/-- The projects directly below a project. -/
def childrenOf (db : Database) (i : Id) : List Project :=
  db.projects.filter (·.parentId = some i)

/-- A project and everything below it, which must lie within `depth` levels. -/
def descend (db : Database) : Nat → Id → Except Fault (List Id)
  | 0, _ => .error .endless
  | depth + 1, i => do
    let below ← (db.childrenOf i).mapM fun p => descend db depth p.id
    return i :: below.flatten

/-- A project and everything below it. -/
def subtree (db : Database) (i : Id) : Except Fault (List Id) :=
  db.descend (db.projects.length + 1) i

/-- A project and at most `steps` projects above it, from the root down; `none` in front if a
    parent does not exist. -/
def ascend (db : Database) : Nat → Id → List (Option Project)
  | 0, _ => []
  | steps + 1, i =>
    match db.findProject? i with
    | none => [none]
    | some p =>
      match p.parentId with
      | none => [some p]
      | some q => ascend db steps q ++ [some p]

/-- A project and everything above it, from the root down. -/
def ancestry (db : Database) (i : Id) : List (Option Project) :=
  db.ascend (db.projects.length + 1) i

/-- The names of the projects above a report and its own name, separated by slashes. -/
def reportPath (db : Database) (project : Id) (reportName : String) : String :=
  let names := (db.ancestry project).filterMap fun p => p.map (·.name)
  "/".intercalate (names ++ if reportName.isEmpty then [] else [Text.trim reportName])

/-- The name of the root above a project; empty if the way up leads nowhere. -/
def rootName (db : Database) (project : Id) : String :=
  match (db.ancestry project).head? with
  | some (some p) => Text.trim p.name
  | _ => ""

/-! ## Inventory -/

/-- The projects of an organisation that are not marked as deleted. -/
def inventoryProjects (db : Database) (organization : Id) : List Project :=
  db.projects.filter fun p => !p.audit.isDeleted && db.createdIn (some organization) p

/-- The number of reports of a project that are not marked as deleted. -/
def reportCount (db : Database) (project : Id) : Nat :=
  (db.reports.filter fun r => r.projectId = project && r.isDeleted = some false).length

/-- The number of reports of a project and of what lies below it within `projects`. -/
def reportTotal (db : Database) (projects : List Project) : Nat → Id → Nat
  | 0, _ => 0
  | depth + 1, i =>
    let below := (projects.filter (·.parentId = some i)).map fun p =>
      reportTotal db projects depth p.id
    db.reportCount i + below.foldr (· + ·) 0

/-- The root projects of an organisation, each with the number of reports at and below it. -/
def inventory (db : Database) (organization : Id) : List (Project × Nat) :=
  let projects := db.inventoryProjects organization
  (projects.filter (·.parentId.isNone)).map fun p =>
    (p, db.reportTotal projects (projects.length + 1) p.id)

end Database

end ReportMigration
