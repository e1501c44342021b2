import ReportMigration.Sample.Catalogue
/-!
Workloads: fixed rounds of work on a sample deployment, for measuring and for trying a deployment
out. A workload is run with a number of rounds; less than none is none.

* `Workload.rounds` collects what the rounds answer;
* `Workload.excerpt` is the beginning of a text, which is all that a workload shows of long answers;
* `Workload.tried` is the excerpt of an answer, or the name of the fault that came in its place.
-/
namespace ReportMigration

/-- Some work in a number of rounds. -/
structure Workload where
  name : String
  /-- What the number of rounds is called. -/
  parameter : String
  run : Int → Op Json

namespace Workload

/-- What the rounds from `i` on answer, of which there are `k`. -/
def roundsFrom (f : Nat → Op (List Json)) : (i k : Nat) → Op (List Json)
  | _, 0 => return []
  | i, k + 1 => do
    let here ← f i
    return here ++ (← roundsFrom f (i + 1) k)

/-- What `n` rounds answer, the first of which has the number zero. -/
def rounds (n : Int) (f : Nat → Op (List Json)) : Op (List Json) := roundsFrom f 0 n.toNat

/-- The first `k` characters of a text. -/
def excerpt (k : Nat) (s : String) : String := .ofList (s.toList.take k)

/-- The beginning of what an operation answers, or the name of its fault. -/
def tried (k : Nat) (x : Op String) : Op Json := do
  match ← x.attempt with
  | .ok s => return .str (excerpt k s)
  | .error f => return .str f.name

/-- The text of a row of a kind: rows show only what kind they are of. -/
def rowText (kind : String) : String := "<" ++ kind ++ " object at 0x"

/-- The text of a list. -/
def listText (items : List String) : String := "[" ++ ", ".intercalate items ++ "]"

/-- The text of rows of a kind. -/
def rowsText {α : Type} (kind : String) (rows : List α) : String :=
  listText (rows.map fun _ => rowText kind)

/-- The text of an identifier in a list. -/
def idText (i : Id) : String := "UUID('" ++ i.text ++ "')"

/-- A truth value as a text. -/
def flagText (b : Bool) : String := (Json.bool b).display

/-- The text of nothing. -/
def nothing : String := Json.null.display

end Workload

end ReportMigration
