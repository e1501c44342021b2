/-!
Ends of lines. A text that is read from a file has one character at the end of each line, however
the file marks it.
-/
namespace ReportMigration.Text

/-- A text in which every end of a line is a line feed. -/
def unifyLinesList : List Char → List Char
  | [] => []
  | '\r' :: '\n' :: cs => '\n' :: unifyLinesList cs
  | '\r' :: cs => '\n' :: unifyLinesList cs
  | c :: cs => c :: unifyLinesList cs

/-- A text in which every end of a line is a line feed. -/
def unifyLines (s : String) : String := .ofList (unifyLinesList s.toList)

end ReportMigration.Text
