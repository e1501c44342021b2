import ReportMigration.Json.Writer
import ReportMigration.Text.Base64
/-!
Secrets at rest: texts in base64, and lists of credentials whose passwords are.
-/
namespace ReportMigration

namespace Secret

/-- The written form of a secret. -/
def encode (s : String) : String := .ofList (Base64.encode (Text.octets s))

/-- The secret of a written form. -/
def decode (s : String) : Except Fault String := do
  Text.ofOctets (← Base64.decode s.toList)

end Secret

/-- The items of a value in order: of a list its items, of an object its names, of a text its
    characters. -/
def Json.elements : Json → Except Fault (List Json)
  | arr xs => .ok xs
  | obj fs => .ok (fs.map fun f => .str f.1)
  | str s => .ok (s.toList.map fun c => .str (.singleton c))
  | v => .error (.wrongType ("'" ++ v.typeName ++ "' object is not iterable"))

namespace Secret

/-- The password of a credential, empty if it has none. -/
def password (credential : Json) : Except Fault (List (String × Json) × Json) :=
  match credential with
  | .obj fs => .ok (fs, (Json.getField? "password" fs).getD (.str ""))
  | v => .error (.noAttribute v.typeName "get")

/-- A credential with its password in written form. -/
def sealed (credential : Json) : Except Fault Json := do
  match ← password credential with
  | (fs, .str p) => return .obj (Json.setField "password" (.str (encode p)) fs)
  | (_, v) => throw (.noAttribute v.typeName "encode")

/-- A credential with its password read back. -/
def unsealed (credential : Json) : Except Fault Json := do
  match ← password credential with
  | (fs, .str p) =>
    if p.toList.any fun c => c.toNat ≥ 128 then
      throw (.badValue "string argument should contain only ASCII characters")
    return .obj (Json.setField "password" (.str (← decode p)) fs)
  | (_, v) =>
    throw (.wrongType ("argument should be a bytes-like object or ASCII string, not '" ++
      v.typeName ++ "'"))

/-- The text of a list of credentials, with their passwords in written form. -/
def encodeList (credentials : Json) : Except Fault (Option String) := do
  if !credentials.isTruthy then return none
  let items ← credentials.elements
  let items ← items.mapM sealed
  return some (Json.spaced (.arr items))

/-- The credentials of a text, with their passwords read back. -/
def decodeList (text : Json) : Except Fault (Option Json) := do
  if !text.isTruthy then return none
  match text with
  | .str s =>
    match Json.read s with
    | .error e => throw (.failure .jsonText (e.message s))
    | .ok v =>
      let items ← v.elements
      let opened ← items.mapM unsealed
      match v with
      | .arr _ => return some (.arr opened)
      | _ => return some v
  | v => throw (.wrongType ("the JSON object must be str, bytes or bytearray, not " ++ v.typeName))

end Secret

end ReportMigration
