import ReportMigration.Catalogue.Snapshot
import ReportMigration.Deployment
/-!
The form of answers. A row is an object of its columns. A listing without an order of its own is
given in the order of the identifiers of its rows.
-/
namespace ReportMigration.Answer

/-- What a row is ordered by: its identifier, or else that of the report or project it is about. -/
def rowKey (row : Json) : String :=
  match (row.get? "id").orElse fun _ => (row.get? "report_id").orElse fun _ =>
      row.get? "project_id" with
  | some (.str s) => s
  | some .null => ""
  | some v => v.plain
  | none => ""

/-- Rows in order: by their identifiers, and where these agree by their text. -/
def sorted (rows : List Json) : List Json :=
  let keyed := rows.map fun r => ((rowKey r, r.sortKeys.plain), r)
  let ordered := keyed.mergeSort fun a b =>
    a.1.1 < b.1.1 || (a.1.1 = b.1.1 && !(b.1.2 < a.1.2))
  ordered.map (·.2)

/-- A row. -/
def row (c : Columns) : Json := .obj c

/-- A row, or null. -/
def row? {α : Type} (f : α → Columns) : Option α → Json
  | some x => .obj (f x)
  | none => .null

/-- A listing in its own order. -/
def rows {α : Type} (f : α → Columns) (xs : List α) : Json := .arr (xs.map fun x => .obj (f x))

/-- A listing without an order of its own. -/
def rowSet {α : Type} (f : α → Columns) (xs : List α) : Json :=
  .arr (sorted (xs.map fun x => .obj (f x)))

/-- Identifiers without an order of their own. -/
def idSet (is : List Id) : Json := .arr (sorted (is.map fun i => .str i.text))

/-- Texts in their order. -/
def texts (xs : List String) : Json := .arr (xs.map .str)

/-- A fault. -/
def fault : Fault → Columns
  | .refused r => [("error", .str r.kind.name), ("status", r.status), ("message", r.detail)]
  | f => [("error", .str f.name), ("message", .str f.text)]

/-- A result or a fault. -/
def outcome : Except Fault Json → Columns
  | .ok v => [("result", v)]
  | .error f => fault f

end ReportMigration.Answer

namespace ReportMigration

/-- Answers from the catalogue, or fails. -/
def ask (f : Database → Except Fault Json) : Op Json := do
  Op.ofExcept (f (← Op.db))

/-- Answers from the catalogue. -/
def view (f : Database → Json) : Op Json := do
  return f (← Op.db)

end ReportMigration
