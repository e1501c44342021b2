import ReportMigration.Text.Letter
import ReportMigration.Fault
/-!
The address of a database: a dialect, perhaps with a driver, and where the database is.
-/
namespace ReportMigration.Address

/-- The dialects that are understood. -/
def dialects : List String :=
  ["sqlite", "postgresql", "mysql", "mariadb", "oracle", "mssql", "firebird", "sybase"]

/-- Whether a character can be part of the name of a dialect or driver. -/
def isNameChar (c : Char) : Bool := c.isAlphanum || c = '_' || c = '+'

/-- The name before the colon and the two slashes of an address, and what follows them. -/
def scheme? (cs : List Char) : Option (List Char × List Char) :=
  match cs.takeWhile isNameChar, cs.dropWhile isNameChar with
  | [], _ => none
  | name, ':' :: '/' :: '/' :: rest => some (name, rest)
  | _, _ => none

/-- What follows the user and password of an address, if they are given. -/
def afterUser (cs : List Char) : List Char :=
  let user := cs.takeWhile fun c => c ≠ ':' && c ≠ '/'
  let rest := cs.dropWhile fun c => c ≠ ':' && c ≠ '/'
  let password := (rest.drop 1).dropWhile (· ≠ '@')
  if rest.head? = some ':' && !password.isEmpty then password.drop 1
  else if user.contains '@' then (user.reverse.takeWhile (· ≠ '@')).reverse ++ rest
  else cs

/-- The digits after the host of an address, empty if there are none. -/
def hostNumber (cs : List Char) : List Char :=
  let afterHost := match cs with
    | '[' :: r => (r.dropWhile (· ≠ ']')).drop 1
    | r => r.dropWhile fun c => c ≠ '/' && c ≠ ':' && c ≠ '?'
  match afterHost with
  | ':' :: r => r.takeWhile fun c => c ≠ '/' && c ≠ '?'
  | _ => []

/-- The dialect of an address. -/
def dialect : Option String → Except Fault String
  | none => .error (.noAttribute "NoneType" "_instantiate_plugins")
  | some s =>
    match scheme? s.toList with
    | none =>
      .error (.failure (.named "ArgumentError")
        ("Could not parse rfc1738 URL from string '" ++ s ++ "'"))
    | some (name, rest) =>
      let number := hostNumber (afterUser rest)
      let parts := String.splitOn (.ofList name) "+"
      if !number.all (·.isDigit) then
        .error (.badValue
          ("invalid literal for int() with base 10: " ++ Text.quoted (.ofList number)))
      else if dialects.contains (parts.headD "") then .ok (parts.headD "")
      else
        .error (.failure (.named "NoSuchModuleError")
          ("Can't load plugin: sqlalchemy.dialects:" ++ ".".intercalate parts))

end ReportMigration.Address
