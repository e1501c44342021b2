import ReportMigration.Catalogue.Page
import ReportMigration.Deployment
/-!
Arguments of a request by name.
-/
namespace ReportMigration

/-- How a session that comes with a request ends. -/
inductive SessionEnd where
  | close
  | commit
  deriving DecidableEq

/-- The arguments of a request. -/
structure Arguments where
  fields : List (String × Value)
  /-- How the session that comes with the request ends, if one does. -/
  session : Option SessionEnd := none

/-- What answers a request. -/
abbrev Handler := Arguments → Op Json

namespace Arguments

/-- An argument; one that is left out is null. -/
def get (a : Arguments) (k : String) : Value := (Value.field? k a.fields).getD .null

/-- Whether an argument is given. -/
def has (a : Arguments) (k : String) : Bool := (Value.field? k a.fields).isSome

/-- The text of an argument. -/
def text? (a : Arguments) (k : String) : Option String := (a.get k).text?

/-- The text of an argument, empty if it has none. -/
def text (a : Arguments) (k : String) : String := (a.text? k).getD ""

/-- The identifier in an argument. -/
def id? (a : Arguments) (k : String) : Option Id := (a.text? k).map Id.mk

/-- The identifier in an argument that must be one. -/
def id (a : Arguments) (k : String) : Id := ⟨a.text k⟩

/-- The whole number in an argument. -/
def int? (a : Arguments) (k : String) : Option Int :=
  match a.get k with
  | .int n => some n
  | .bool b => some (if b then 1 else 0)
  | _ => none

/-- The whole number in an argument, or else a default. -/
def int (a : Arguments) (k : String) (default : Int) : Int := (a.int? k).getD default

/-- The truth value of an argument, or else a default. -/
def flag (a : Arguments) (k : String) (default : Bool) : Bool :=
  match a.get k with
  | .bool b => b
  | _ => default

/-- The items of an argument: of a list its items, of a map its names, of a text its characters. -/
def items (a : Arguments) (k : String) : List Value :=
  match a.get k with
  | .list xs => xs
  | .map fs => fs.map fun f => .text f.1
  | .text s => s.toList.map fun c => .text (.singleton c)
  | _ => []

/-- The identifiers in a list. -/
def ids (a : Arguments) (k : String) : List Id :=
  (a.items k).filterMap fun v => v.text?.map Id.mk

/-- The page of a number and a size. -/
def numberedPage (a : Arguments) : Page := .ofNumber (a.int "page" 0) (a.int "page_size" 0)

/-- The page of an offset and a limit. -/
def page (a : Arguments) : Page := ⟨a.int "offset" 0, a.int "limit" 10⟩

end Arguments

/-- A field that is left out, given as nothing, or given as a text. -/
def Value.change? (k : String) (fs : List (String × Value)) : Option (Option String) :=
  (Value.field? k fs).map fun
    | .null => none
    | v => some v.display

end ReportMigration
