/-!
Loggers and how they are set up. A logger that is set up again starts over with a single handler.
-/
namespace ReportMigration

/-- What a logger writes to, with the form of a line. -/
structure LogHandler where
  kind : String
  level : Nat
  form : String
  deriving DecidableEq

/-- A logger. -/
structure Logger where
  name : String
  level : Nat := 0
  /-- Whether what it logs goes to the loggers above as well. -/
  propagates : Bool := true
  handlers : List LogHandler := []
  deriving DecidableEq

namespace Logger

/-- The level that lets everything through. -/
def debugLevel : Nat := 10

/-- The form of a line. -/
def lineForm : String :=
  "%(asctime)s - %(name)s - %(levelname)s - %(filename)s:%(lineno)d - %(message)s"

/-- The same with a wide gap before the line number. -/
def wideLineForm : String :=
  "%(asctime)s - %(name)s - %(levelname)s - %(filename)s:                %(lineno)d - %(message)s"

/-- The logger of a name; the empty name is that of the logger above all others. -/
def named (name : String) : Logger := { name := if name.isEmpty then "root" else name }

/-- A logger that lets everything through to the console. -/
def setUp (form : String) (l : Logger) : Logger :=
  { l with level := debugLevel, handlers := [⟨"StreamHandler", 0, form⟩] }

end Logger

end ReportMigration
