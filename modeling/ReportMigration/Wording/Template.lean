import ReportMigration.Fault
/-!
Texts with holes.

A hole is a name in braces; a brace of the text itself is written twice. What stands in a hole after
a colon or an exclamation mark says how its value is shown, and is left aside.

* `Template.read` divides a text into its pieces, up to the first place where it is malformed;
* `Template.fill` fills the holes from the left and fails at the first one that has no value.
-/
namespace ReportMigration

/-- A piece of a template. -/
inductive Piece where
  | text (c : Char)
  | hole (name : String)
  deriving DecidableEq

/-- What is wrong with a template. -/
inductive Malformed where
  /-- It ends in an opening brace. -/
  | opening
  /-- A closing brace belongs to nothing. -/
  | closing
  /-- A hole has no end. -/
  | unclosed
  /-- A hole begins inside the name of a hole. -/
  | nested
  deriving DecidableEq

def Malformed.message : Malformed → String
  | opening => "Single '\x7b' encountered in format string"
  | closing => "Single '\x7d' encountered in format string"
  | unclosed => "expected '\x7d' before end of string"
  | nested => "unexpected '\x7b' in field name"

/-- A text with holes: its pieces up to its end, or to where it is malformed. -/
structure Template where
  pieces : List Piece
  malformed : Option Malformed := none
  deriving DecidableEq

namespace Template

/-- A template with one more piece at its front. -/
def cons (p : Piece) (t : Template) : Template := { t with pieces := p :: t.pieces }

/-- The hole of a field: its name up to the first point or bracket. -/
def hole (field : List Char) : Piece :=
  .hole (.ofList (field.reverse.takeWhile fun c => c ≠ '.' && c ≠ '['))

mutual

/-- Reads text. -/
def readText : List Char → Template
  | [] => ⟨[], none⟩
  | '\x7b' :: '\x7b' :: cs => (readText cs).cons (.text '\x7b')
  | '\x7b' :: [] => ⟨[], some .opening⟩
  | '\x7b' :: cs => readName [] false cs
  | '\x7d' :: '\x7d' :: cs => (readText cs).cons (.text '\x7d')
  | '\x7d' :: _ => ⟨[], some .closing⟩
  | c :: cs => (readText cs).cons (.text c)

/-- Reads the name of a hole, of which the characters in `name` were read, the last first;
    `bracketed` if it is inside brackets. -/
def readName (name : List Char) (bracketed : Bool) : List Char → Template
  | [] => ⟨[], some .unclosed⟩
  | c :: cs =>
    if bracketed then readName (c :: name) (c ≠ ']') cs
    else if c = '\x7d' then (readText cs).cons (hole name)
    else if c = '\x7b' then ⟨[], some .nested⟩
    else if c = ':' || c = '!' then readForm name 0 cs
    else readName (c :: name) (c = '[') cs

/-- Reads how a hole is shown, inside `depth` further braces. -/
def readForm (name : List Char) (depth : Nat) : List Char → Template
  | [] => ⟨[], some .unclosed⟩
  | c :: cs =>
    if c = '\x7b' then readForm name (depth + 1) cs
    else if c = '\x7d' then
      match depth with
      | 0 => (readText cs).cons (hole name)
      | d + 1 => readForm name d cs
    else readForm name depth cs

end

/-- The template that a text is. -/
def read (s : String) : Template := readText s.toList

/-- The names of the holes, from the left. -/
def holes (t : Template) : List String :=
  t.pieces.filterMap fun
    | .hole name => some name
    | .text _ => none

/-- The text of a piece. -/
def fillPiece (values : List (String × Json)) : Piece → Except Fault String
  | .text c => .ok (.singleton c)
  | .hole name =>
    match Json.getField? name values with
    | some v => .ok v.display
    | none =>
      if name.isEmpty then
        .error (.failure .index "Replacement index 0 out of range for positional args tuple")
      else .error (.failed .key [.str name])

/-- The text with the holes filled. -/
def fill (t : Template) (values : List (String × Json)) : Except Fault String := do
  let texts ← t.pieces.mapM (fillPiece values)
  match t.malformed with
  | some m => .error (.badValue m.message)
  | none => return String.join texts

end Template

end ReportMigration
