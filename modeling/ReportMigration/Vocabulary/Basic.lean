import ReportMigration.Fault
/-!
Fixed sets of named values.

A `Vocabulary` gives names to values. Where two names have the same value, the first is the name of
the member and the other an alias of it.

* `Vocabulary.member?` finds a member by a name, `Vocabulary.valued?` by a value;
* `Vocabulary.aliases` are the aliases with the names of their members.
-/
namespace ReportMigration

/-- Whether a value is worth a whole number; truth values count as one and zero. -/
def Json.isWorth (n : Int) : Json → Bool
  | .bool b => n = if b then 1 else 0
  | .int m => n = m
  | .real x => x = Double.ofInt n || (x.isZero && n = 0)
  | _ => false

/-- Whether two values are equal, where numbers and truth values are compared by what they are
    worth. -/
def Json.agrees : Json → Json → Bool
  | .bool b, v => v.isWorth (if b then 1 else 0)
  | .int n, v => v.isWorth n
  | v, .bool b => v.isWorth (if b then 1 else 0)
  | v, .int n => v.isWorth n
  | v, w => v == w

/-- A value of a fixed set. -/
inductive Term where
  | value (v : Json)
  /-- Some texts in no order. -/
  | choice (xs : List String)
  /-- A pattern, by its text. -/
  | pattern (p : String)
  deriving BEq

namespace Term

/-- The form in which a value is reported. -/
def toJson : Term → Json
  | value v => v
  | choice xs => .arr (xs.map .str)
  | pattern p => .obj [("pattern", .str p)]

/-- The text of a value. -/
def display : Term → String
  | value v => v.display
  | choice xs => "\x7b" ++ ", ".intercalate (xs.map Text.quoted) ++ "\x7d"
  | pattern p => "re.compile(" ++ Text.quoted p ++ ")"

/-- Whether a value that is looked up is this one. -/
def holds : Term → Json → Bool
  | value v, w => v.agrees w
  | _, _ => false

end Term

/-- A fixed set of named values. -/
structure Vocabulary where
  name : String
  entries : List (String × Term)

namespace Vocabulary

/-- Entries that are texts. -/
def ofTexts (es : List (String × String)) : List (String × Term) :=
  es.map fun e => (e.1, .value (.str e.2))

/-- The first name of a value. -/
def canonical (v : Vocabulary) (t : Term) : String :=
  match v.entries.find? fun e => e.2 == t with
  | some e => e.1
  | none => ""

/-- The member that goes by a name, with the name it has itself. -/
def member? (v : Vocabulary) (name : String) : Option (String × Term) :=
  (v.entries.find? fun e => e.1 = name).map fun e => (v.canonical e.2, e.2)

/-- The member with a value. -/
def valued? (v : Vocabulary) (x : Json) : Option (String × Term) :=
  v.entries.find? fun e => e.2.holds x

/-- The names that are not the first of their value, each with the first. -/
def aliases (v : Vocabulary) : List (String × String) :=
  v.entries.filterMap fun e =>
    let first := v.canonical e.2
    if first = e.1 then none else some (e.1, first)

/-- The member with a value, or what is wrong with the value. -/
def ofValue (v : Vocabulary) (x : Json) : Except Fault (String × Term) :=
  match v.valued? x with
  | some m => .ok m
  | none => .error (.badValue (x.literal ++ " is not a valid " ++ v.name))

/-- The member that goes by a name, or what is wrong with the name. -/
def ofName (v : Vocabulary) (name : String) : Except Fault (String × Term) :=
  match v.member? name with
  | some m => .ok m
  | none => .error (.failed .key [.str name])

end Vocabulary

end ReportMigration
