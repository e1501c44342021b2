import ReportMigration.Text.Quoted
/-!
Everything that can go wrong.

* A `Refusal` is an answer of the application that carries a status and a detail for its caller;
* a `Violation` is a write that the database turns down;
* a `Failure` is any other fault, of the program itself or of a service it uses, told apart by kind.

`Fault.text` is the text of a fault as other messages quote it, `Fault.name` the name it is reported
under.
-/
namespace ReportMigration

/-- The kinds of refusal. -/
inductive RefusalKind where
  /-- A status and a detail without a kind of their own. -/
  | plain
  | general
  | notFound
  | authentication
  | authorization
  | conflict
  | server
  | badRequest
  | validation
  deriving DecidableEq

namespace RefusalKind

/-- All kinds but the plain one. -/
def all : List RefusalKind :=
  [general, notFound, authentication, authorization, conflict, server, badRequest, validation]

/-- The name a refusal is reported under. -/
def name : RefusalKind → String
  | plain => "HTTPException"
  | general => "BaseAppException"
  | notFound => "NotFoundError"
  | authentication => "AuthenticationError"
  | authorization => "AuthorizationError"
  | conflict => "ConflictError"
  | server => "ServerError"
  | badRequest => "BadRequestError"
  | validation => "ValidationError"

/-- The status of the kinds that have one of their own. -/
def status : RefusalKind → Int
  | plain | general | server => 500
  | notFound => 404
  | authentication => 401
  | authorization => 403
  | conflict => 409
  | badRequest | validation => 400

/-- The detail of a refusal that was given none. -/
def defaultDetail : RefusalKind → String
  | plain | general => "An error occurred"
  | notFound => "Resource not found"
  | authentication => "Invalid credentials"
  | authorization => "You do not have permission to perform this action"
  | conflict => "Conflict: Resource already exists"
  | server => "Internal Server Error"
  | badRequest => "Bad request"
  | validation => "Validation error"

/-- The names of the kinds that a kind belongs to, itself first; the plain kind belongs to none. -/
def lineage : RefusalKind → List String
  | plain => []
  | general => [name general]
  | k => [name k, name general]

end RefusalKind

/-- An answer that turns the caller down. -/
structure Refusal where
  kind : RefusalKind
  status : Json
  detail : Json
  /-- What its text shows. -/
  shown : List Json

/-- A write that the database turns down. -/
inductive Violation where
  /-- A column that must have a value has none. -/
  | missing (table column : String)
  /-- Another row has the same value in a column where values differ. -/
  | repeated (table column : String)
  /-- A reference leads nowhere. -/
  | dangling
  deriving DecidableEq

def Violation.text : Violation → String
  | missing t c => "NOT NULL constraint failed: " ++ t ++ "." ++ c
  | repeated t c => "UNIQUE constraint failed: " ++ t ++ "." ++ c
  | dangling => "FOREIGN KEY constraint failed"

/-- The kinds of failure that the program tells apart; all others go by their name. -/
inductive FailureKind where
  | noAttribute
  | type
  | key
  | value
  | index
  | lookup
  | overflow
  | zeroDivision
  | unbound
  | runtime
  | general
  | fileNotFound
  | isDirectory
  | notDirectory
  | fileExists
  | octets
  | base64
  | jsonText
  | archive
  | objectStore
  | missingObject
  | database
  | expiredToken
  | modelConnection
  | modelAuthentication
  /-- A failure that carries a status, as those of web services do. -/
  | ofStatus (name : String) (status : Int)
  | named (name : String)
  deriving DecidableEq

namespace FailureKind

/-- The name a failure is reported under. -/
def name : FailureKind → String
  | noAttribute => "AttributeError"
  | type => "TypeError"
  | key => "KeyError"
  | value => "ValueError"
  | index => "IndexError"
  | lookup => "LookupError"
  | overflow => "OverflowError"
  | zeroDivision => "ZeroDivisionError"
  | unbound => "UnboundLocalError"
  | runtime => "RuntimeError"
  | general => "Exception"
  | fileNotFound => "FileNotFoundError"
  | isDirectory => "IsADirectoryError"
  | notDirectory => "NotADirectoryError"
  | fileExists => "FileExistsError"
  | octets => "UnicodeDecodeError"
  | base64 => "Error"
  | jsonText => "JSONDecodeError"
  | archive => "BadZipFile"
  | objectStore => "ClientError"
  | missingObject => "ResourceNotFoundError"
  | database => "SQLAlchemyError"
  | expiredToken => "ExpiredSignatureError"
  | modelConnection => "APIConnectionError"
  | modelAuthentication => "OpenAIAuthenticationError"
  | ofStatus n _ | named n => n

/-- The kinds with a name of their own. -/
def all : List FailureKind :=
  [noAttribute, type, key, value, index, lookup, overflow, zeroDivision, unbound, runtime, general,
    fileNotFound, isDirectory, notDirectory, fileExists, octets, base64, jsonText, archive,
    objectStore, missingObject, database, expiredToken, modelConnection, modelAuthentication]

/-- The kind that goes by a name. -/
def ofName (n : String) : FailureKind := (all.find? (·.name = n)).getD (named n)

/-- Whether a failure of this kind counts as an unsuitable value. -/
def isValue : FailureKind → Bool
  | value | octets | base64 | jsonText => true
  | _ => false

end FailureKind

/-- Anything that can go wrong. -/
inductive Fault where
  | refused (r : Refusal)
  | violated (v : Violation)
  | failed (kind : FailureKind) (args : List Json)

namespace Fault

/-- The text for what a fault was raised with: nothing, one value as it is, several in brackets. -/
def argsText : List Json → String
  | [] => ""
  | [v] => v.display
  | vs => Json.tupleLiteral vs

/-- The text of a fault. -/
def text : Fault → String
  | refused r => argsText r.shown
  | violated v => v.text
  | failed .key [v] => v.literal
  | failed _ args => argsText args

/-- The name a fault is reported under. -/
def name : Fault → String
  | refused r => r.kind.name
  | violated _ => "IntegrityError"
  | failed k _ => k.name

/-- A status and a detail. -/
def http (status : Int) (detail : Json) : Fault := refused ⟨.plain, .int status, detail, []⟩

/-- A refusal of a kind with its detail; an empty one gives way to that of the kind. -/
def refuse (kind : RefusalKind) (detail : String) : Fault :=
  refused ⟨kind, .int kind.status, .str (if detail.isEmpty then kind.defaultDetail else detail),
    [.str detail]⟩

/-- The same, where the text of the fault does not show the detail. -/
def refuseSilently (kind : RefusalKind) (detail : String) : Fault :=
  refused ⟨kind, .int kind.status, .str (if detail.isEmpty then kind.defaultDetail else detail), []⟩

def failure (kind : FailureKind) (text : String) : Fault := failed kind [.str text]

/-- An unsuitable value. -/
def badValue (text : String) : Fault := failure .value text

/-- A value of the wrong type. -/
def wrongType (text : String) : Fault := failure .type text

/-- An attribute that a value of a type does not have. -/
def noAttribute (type attr : String) : Fault :=
  failure .noAttribute ("'" ++ type ++ "' object has no attribute '" ++ attr ++ "'")

/-- A whole number that the database has no room for. -/
def tooLarge : Fault :=
  failure .overflow "Python int too large to convert to SQLite INTEGER"

/-- The status that a fault carries. -/
def status? : Fault → Option Json
  | refused r => some r.status
  | failed (.ofStatus _ status) _ => some (.int status)
  | _ => none

/-- Whether this is a refusal. -/
def isRefusal : Fault → Bool
  | refused _ => true
  | _ => false

end Fault

end ReportMigration
