import ReportMigration.Files.Disk
import ReportMigration.Id
import ReportMigration.Time.Timestamp
/-!
Values that cross the border to the services behind the application: what a request carries, what a
service is called with and what it answers.

* `Value.attr` reads an attribute and `Value.item` an entry; both say what is wrong with a value that
  has none;
* `Value.toJson` is the form in which a value is reported;
* `Value.isTruthy` tells values that count as present from those that count as absent.
-/
namespace ReportMigration

/-- A value at the border. -/
inductive Value where
  | null
  | bool (b : Bool)
  | int (n : Int)
  | real (x : Double)
  | text (s : String)
  | id (i : Id)
  | time (t : Timestamp)
  | list (xs : List Value)
  | map (fs : List (String × Value))
  /-- An object with attributes. -/
  | record (fs : List (String × Value))
  /-- The answer of a service. -/
  | reply (data error status : Value)
  /-- An uploaded file. -/
  | file (name : String) (content : Content)
  /-- The list of work to be done after the answer. -/
  | tasks
  /-- A method of a service. -/
  | method (name : String)
  /-- An object that holds settings. -/
  | settings (kind : String)
  /-- A member of a fixed set: the set, the name of the member and its value. -/
  | member (set name : String) (value : Json)
  deriving Inhabited

namespace Value

/-- The name of the type of a value, as messages give it. -/
def typeName : Value → String
  | null => "NoneType"
  | bool _ => "bool"
  | int _ => "int"
  | real _ => "float"
  | text _ => "str"
  | id _ => "UUID"
  | time _ => "datetime.datetime"
  | list _ => "list"
  | map _ => "dict"
  | record _ => "types.SimpleNamespace"
  | reply .. => "ServiceResponse"
  | file .. => "UploadFile"
  | tasks => "BackgroundTasks"
  | method _ => "function"
  | settings k => k
  | member s _ _ => s

mutual

/-- A JSON value as it is. -/
def ofJson : Json → Value
  | .null => null
  | .bool b => bool b
  | .int n => int n
  | .real x => real x
  | .str s => text s
  | .arr xs => list (ofItems xs)
  | .obj fs => map (ofFields fs)

/-- The same for each item. -/
def ofItems : List Json → List Value
  | [] => []
  | x :: xs => ofJson x :: ofItems xs

/-- The same for each field. -/
def ofFields : List (String × Json) → List (String × Value)
  | [] => []
  | (k, v) :: fs => (k, ofJson v) :: ofFields fs

end

mutual

/-- The form in which a value is reported. -/
def toJson : Value → Json
  | null => .null
  | bool b => .bool b
  | int n => .int n
  | real x => .real x
  | text s => .str s
  | id i => .str i.text
  | time t => .str t.iso
  | list xs => .arr (itemsToJson xs)
  | map fs => .obj (fieldsToJson fs)
  | record fs => .obj (fieldsToJson fs)
  | reply d e s => .obj [("data", toJson d), ("error", toJson e), ("status_code", toJson s)]
  | file n _ => .obj [("file", .str n)]
  | tasks => .obj [("tasks", .bool true)]
  | method n => .obj [("method", .str n)]
  | settings k => .obj [("object", .str k)]
  | member _ _ v => v

/-- The same for each item. -/
def itemsToJson : List Value → List Json
  | [] => []
  | x :: xs => toJson x :: itemsToJson xs

/-- The same for each field. -/
def fieldsToJson : List (String × Value) → List (String × Json)
  | [] => []
  | (k, v) :: fs => (k, toJson v) :: fieldsToJson fs

end

/-- The entry of a name. -/
def field? (k : String) (fs : List (String × Value)) : Option Value :=
  (fs.find? fun f => f.1 = k).map (·.2)

/-- Puts an entry into a map, in the place of one of the same name or else at the end. -/
def setField (k : String) (v : Value) : List (String × Value) → List (String × Value)
  | [] => [(k, v)]
  | (k', v') :: fs => if k' = k then (k, v) :: fs else (k', v') :: setField k v fs

/-- An attribute of a value. -/
def attr (k : String) (v : Value) : Except Fault Value :=
  let found := match v with
    | record fs => field? k fs
    | reply d e s =>
      if k = "data" then some d
      else if k = "error" then some e
      else if k = "status_code" then some s
      else if k = "success" then some (method "success")
      else none
    | member _ n x =>
      if k = "value" then some (ofJson x) else if k = "name" then some (text n) else none
    | _ => none
  match found with
  | some x => .ok x
  | none => .error (.noAttribute v.typeName k)

/-- An entry of a value. -/
def item (k : String) (v : Value) : Except Fault Value :=
  match v with
  | map fs =>
    match field? k fs with
    | some x => .ok x
    | none => .error (.failed .key [.str k])
  | list _ => .error (.wrongType "list indices must be integers or slices, not str")
  | reply .. => .error (.wrongType "tuple indices must be integers or slices, not str")
  | text _ => .error (.wrongType "string indices must be integers, not 'str'")
  | _ => .error (.wrongType ("'" ++ v.typeName ++ "' object is not subscriptable"))

/-- Whether a value counts as present. -/
def isTruthy : Value → Bool
  | null => false
  | bool b => b
  | int n => n ≠ 0
  | real x => !x.isZero
  | text s => !s.isEmpty
  | list xs => !xs.isEmpty
  | map fs => !fs.isEmpty
  | _ => true

/-- `v`, or `w` if `v` counts as absent. -/
def orElse (v w : Value) : Value := if v.isTruthy then v else w

/-- The text of a value, as messages give it. -/
def display : Value → String
  | text s => s
  | id i => i.text
  | v => v.toJson.display

/-- The text of a value, if it is one. -/
def text? : Value → Option String
  | .text s => some s
  | .id i => some i.text
  | .member _ _ (.str s) => some s
  | _ => none

/-- The text of an attribute that may be left out. -/
def optionalText (v : Value) (k : String) : Option String :=
  match v.attr k with
  | .ok x => x.text?
  | .error _ => none

/-- The identifier that a value spells. -/
def toId : Value → Except Fault Id
  | .text s =>
    match Id.ofText s with
    | .ok i => .ok i
    | .error e => .error (.badValue e.message)
  | .null => .error <| .wrongType
      "one of the hex, bytes, bytes_le, fields, or int arguments must be given"
  | v => .error (.noAttribute v.typeName "replace")

/-- The fault for a value of a type that has no written form. -/
def notSerializable (type : String) : Fault :=
  .wrongType ("Object of type " ++ type ++ " is not JSON serializable")

mutual

/-- The written form of a value, if it has one; the answer of a service is the list of its parts, and
    numbers that are not finite are left out if only `finite` ones are allowed. -/
def written (finite : Bool) : Value → Except Fault Json
  | null => .ok .null
  | bool b => .ok (.bool b)
  | int n => .ok (.int n)
  | real x =>
    if finite && (x.isNaN || x.isInfinite) then
      .error (.badValue "Out of range float values are not JSON compliant")
    else .ok (.real x)
  | text s => .ok (.str s)
  | id _ => .error (notSerializable "UUID")
  | time _ => .error (notSerializable "datetime")
  | list xs => (writtenItems finite xs).map .arr
  | map fs => (writtenFields finite fs).map .obj
  | record _ => .error (notSerializable "SimpleNamespace")
  | reply d e s => do
    let d ← written finite d
    let e ← written finite e
    return .arr [d, e, ← written finite s]
  | file .. => .error (notSerializable "UploadFile")
  | tasks => .error (notSerializable "BackgroundTasks")
  | method _ => .error (notSerializable "function")
  | settings k => .error (notSerializable k)
  | member _ _ v => .ok v

/-- The same for each item. -/
def writtenItems (finite : Bool) : List Value → Except Fault (List Json)
  | [] => .ok []
  | x :: xs => do
    let x ← written finite x
    return x :: (← writtenItems finite xs)

/-- The same for each field. -/
def writtenFields (finite : Bool) : List (String × Value) → Except Fault (List (String × Json))
  | [] => .ok []
  | (k, v) :: fs => do
    let v ← written finite v
    return (k, v) :: (← writtenFields finite fs)

end

/-- A value as part of the body of an answer. -/
def toBody : Value → Except Fault Json := written true

/-- How many items a value has. -/
def size : Value → Except Fault Nat
  | text s => .ok s.length
  | list xs => .ok xs.length
  | map fs => .ok fs.length
  | reply .. => .ok 3
  | v => .error (.wrongType ("object of type '" ++ v.typeName ++ "' has no len()"))

/-- The items of a value that can be gone through: those of a list, the names of a map, the
    characters of a text. -/
def elements : Value → Except Fault (List Value)
  | list xs => .ok xs
  | map fs => .ok (fs.map fun f => text f.1)
  | text s => .ok (s.toList.map fun c => text (.singleton c))
  | reply d e s => .ok [d, e, s]
  | v => .error (.wrongType ("'" ++ v.typeName ++ "' object is not iterable"))

/-- A value with other items in the place of its own, if it holds items itself. -/
def withElements : Value → List Value → Value
  | list _, ys => list ys
  | reply .., [d, e, s] => reply d e s
  | v, _ => v

end Value

end ReportMigration
