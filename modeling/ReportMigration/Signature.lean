import ReportMigration.Fault
/-!
Parameters, and how given values are matched with them.

Values are given in order or by name. Each goes to a parameter of its own; a parameter that is given
no value takes its default.
-/
namespace ReportMigration

/-- A parameter with its default, if it has one. -/
structure Parameter where
  name : String
  default : Option Json := none

/-- The parameters of a function. -/
structure Signature where
  /-- What messages call the function. -/
  title : String
  parameters : List Parameter
  /-- Whether the function has a receiver, which messages count as a parameter. -/
  hasReceiver : Bool := false

namespace Signature

/-- Some names in quotes, the last two joined by "and". -/
def nameList : List String → String
  | [] => ""
  | [a] => "'" ++ a ++ "'"
  | [a, b] => "'" ++ a ++ "' and '" ++ b ++ "'"
  | [a, b, c] => "'" ++ a ++ "', '" ++ b ++ "', and '" ++ c ++ "'"
  | a :: as => "'" ++ a ++ "', " ++ nameList as

/-- The parameters that have no default. -/
def required (s : Signature) : List Parameter := s.parameters.filter (·.default.isNone)

/-- The fault of a function that is given something wrong. -/
def fault (s : Signature) (text : String) : Fault := .wrongType (s.title ++ "() " ++ text)

/-- The fault of too many values in order. -/
def tooMany (s : Signature) (given : Nat) : Fault :=
  let extra := if s.hasReceiver then 1 else 0
  let most := s.parameters.length + extra
  let least := s.required.length + extra
  let takes := if least = most then toString most
    else "from " ++ toString least ++ " to " ++ toString most
  let noun := if most = 1 then " positional argument but " else " positional arguments but "
  let given := given + extra
  s.fault ("takes " ++ takes ++ noun ++ toString given ++
    (if given = 1 then " was given" else " were given"))

/-- The fault of parameters without a value. -/
def missing (s : Signature) (names : List String) : Fault :=
  s.fault ("missing " ++ toString names.length ++ " required positional argument" ++
    (if names.length = 1 then "" else "s") ++ ": " ++ nameList names)

/-- The first fault among the values given by name, if there is one. -/
def namedFault? (s : Signature) (inOrder : List String) : List (String × Json) → Option Fault
  | [] => none
  | (k, _) :: rest =>
    if !(s.parameters.any (·.name = k)) then
      some (s.fault ("got an unexpected keyword argument '" ++ k ++ "'"))
    else if inOrder.contains k then
      some (s.fault ("got multiple values for argument '" ++ k ++ "'"))
    else namedFault? s inOrder rest

/-- The value of every parameter. -/
def bind (s : Signature) (args : List Json) (named : List (String × Json)) :
    Except Fault (List (String × Json)) := do
  let names := s.parameters.map (·.name)
  let inOrder := names.zip args
  match s.namedFault? (inOrder.map (·.1)) named with
  | some f => throw f
  | none => pure ()
  if names.length < args.length then throw (s.tooMany args.length)
  let given := inOrder ++ named
  let absent := s.parameters.filter fun p =>
    p.default.isNone && (Json.getField? p.name given).isNone
  if !absent.isEmpty then throw (s.missing (absent.map (·.name)))
  return s.parameters.map fun p =>
    (p.name, (Json.getField? p.name given).getD (p.default.getD .null))

end Signature

end ReportMigration
