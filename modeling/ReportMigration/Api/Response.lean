import ReportMigration.Gateway.Arguments
import ReportMigration.Raise
/-!
What routes answer with, and how the answer of a service becomes the answer of a route.

* `Response.send` makes a body of a value, unless the value has no written form;
* `Response.ofReply` passes on the reply of a service;
* `Response.shielded` reports failures of a route with their text.
-/
namespace ReportMigration

/-- What a route answers with. -/
inductive Response where
  /-- A body with a status. -/
  | body (status content : Json)
  /-- A model by its name and fields. -/
  | model (name : String) (fields : List (String × Value))
  /-- A value as it is. -/
  | plain (v : Json)

namespace Response

/-- The form in which a response is reported. -/
def toJson : Response → Json
  | body status content => .obj [("status_code", status), ("body", content)]
  | model name fields =>
    .obj [("model", .str name), ("fields", .obj (Value.fieldsToJson fields))]
  | plain v => v

/-- What is wrong with a value as a status, if anything is. -/
def statusFault? : Value → Option Fault
  | .int _ | .bool _ | .real _ => none
  | v => some <| .wrongType
      ("'<' not supported between instances of '" ++ v.typeName ++ "' and 'int'")

/-- The response with a status and a value as its body. -/
def send (status content : Value) : Except Fault Response := do
  let written ← content.toBody
  match statusFault? status with
  | some f => throw f
  | none => return body status.toJson written

/-- The response that passes on the reply of a service. -/
def ofReply (v : Value) : Except Fault Response := do
  let data ← v.attr "data"
  let error ← v.attr "error"
  send (← v.attr "status_code") (.map [("data", data), ("error", error)])

/-- The response that passes on the value of a service. -/
def ofValue (v : Value) : Except Fault Response := send (.int 200) v

/-- The model with the fields of a value. -/
def ofModel (name : String) : Value → Except Fault Response
  | .map fs => .ok (model name fs)
  | v => .error <| .wrongType
      ("app.schemas.workspace." ++ name ++ "() argument after ** must be a mapping, not " ++
        v.typeName)

/-- Refuses with a status and a detail. -/
def turnDown {α : Type} (status detail : Value) : Except Fault α := do
  let r ← Refusal.make .plain [] [("status_code", status.toJson), ("detail", detail.toJson)]
  throw (.refused r)

/-- Refuses where a service reports that it did not succeed. -/
def checkSuccess (v : Value) : Except Fault Unit := do
  if !(← v.attr "success").isTruthy then
    let error ← v.attr "error"
    turnDown (← v.attr "status_code") error

/-- The data of a service, which must not be missing. -/
def presentData (v : Value) : Except Fault Value := do
  let data ← v.attr "data"
  if data.isTruthy then return data
  else throw (.http 500 (.str "Processor returned no data"))

/-- An operation whose failures are refusals with their text. -/
def shielded {α : Type} (x : Op α) : Op α := do
  match ← x.attempt with
  | .ok a => return a
  | .error (.refused r) => throw (.refused r)
  | .error f => throw (.http 500 (.str f.text))

end Response

/-- What answers a request of a route. -/
abbrev RouteHandler := Arguments → Op Response

/-- Where an argument for a service comes from. -/
inductive Source where
  /-- It is an argument of the request. -/
  | given (name : String)
  /-- It is an attribute of an argument of the request. -/
  | part (name attr : String)
  /-- It is the text of such an attribute. -/
  | partText (name attr : String)
  /-- It is a method of the service. -/
  | method (name : String)

namespace Source

/-- The value of an argument for a service. -/
def value (a : Arguments) : Source → Except Fault Value
  | given k => .ok (a.get k)
  | part k attr => (a.get k).attr attr
  | partText k attr => do return .text (← (a.get k).attr attr).display
  | method m => .ok (.method m)

end Source

/-- Calls a service with arguments in order and by name. -/
def consult (service : String) (args : List Source) (named : List (String × Source))
    (a : Arguments) : Op Value := do
  let args ← Op.ofExcept (args.mapM (·.value a))
  let named ← Op.ofExcept (named.mapM fun (k, s) => do return (k, ← s.value a))
  Op.call service args named

/-- A route that passes a request on to a service and its reply back. -/
def relay (service : String) (args : List Source := []) (named : List (String × Source) := []) :
    RouteHandler := fun a => do
  Op.ofExcept (Response.ofReply (← consult service args named a))

/-- A route that passes a request on to a service and the value it answers back. -/
def relayValue (service : String) (args : List Source := []) : RouteHandler := fun a => do
  Op.ofExcept (Response.ofValue (← consult service args [] a))

/-- The methods of requests. -/
inductive Method where
  | get
  | post
  | put
  | patch
  | delete
  deriving DecidableEq

def Method.name : Method → String
  | get => "GET"
  | post => "POST"
  | put => "PUT"
  | patch => "PATCH"
  | delete => "DELETE"

/-- A route: what requests it takes, what it is called, and what answers it. -/
structure Route where
  method : Method
  path : String
  operation : String
  answer : RouteHandler

end ReportMigration
