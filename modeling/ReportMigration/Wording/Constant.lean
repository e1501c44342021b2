import ReportMigration.Wording.Template
/-!
Values that never change, by name.
-/
namespace ReportMigration

/-- A value that never changes. -/
inductive Constant where
  | text (s : String)
  | value (v : Json)
  /-- A path on disk. -/
  | path (p : String)

namespace Constant

/-- A text in parts. -/
def joined (parts : List String) : Constant := text (String.join parts)

/-- The form in which a constant is reported. -/
def toJson : Constant → Json
  | text s => .str s
  | value v => v
  | path p => .str p

/-- The name of the type of a constant, as messages give it. -/
def typeName : Constant → String
  | text _ => "str"
  | path _ => "PosixPath"
  | value v => v.typeName

/-- A constant that is a template, with its holes filled. -/
def fill (values : List (String × Json)) : Constant → Except Fault String
  | text s => (Template.read s).fill values
  | c => .error (.noAttribute c.typeName "format")

end Constant

end ReportMigration
