import ReportMigration.Text.Blank
/-!
Paths as texts, with a slash between names.

* `join`, `baseName`, `dirName`, `stemAndExtension` cut and join paths as they are written;
* `tidy` drops what does not change the place a path names: repeated slashes and single dots.
-/
namespace ReportMigration.Path

/-- `b` below `a`; a `b` that starts at the root stands alone. -/
def join (a b : String) : String :=
  if b.startsWith "/" then b
  else if a.isEmpty || a.endsWith "/" then a ++ b
  else a ++ "/" ++ b

/-- The characters after the last slash. -/
def baseNameList (cs : List Char) : List Char := (cs.reverse.takeWhile (· ≠ '/')).reverse

/-- What follows the last slash. -/
def baseName (p : String) : String := .ofList (baseNameList p.toList)

/-- What comes before the last slash, without slashes at its end unless it is the root. -/
def dirName (p : String) : String :=
  let head := (p.toList.reverse.dropWhile (· ≠ '/')).reverse
  if head.all (· = '/') then .ofList head else .ofList (Text.dropTrailing (· = '/') head)

/-- A path cut before the last dot of its last name; dots at the start of the name do not count. -/
def stemAndExtension (p : String) : String × String :=
  let cs := p.toList
  let name := baseNameList cs
  let before := cs.take (cs.length - name.length)
  let dots := name.takeWhile (· = '.')
  let rest := name.drop dots.length
  let ext := (rest.reverse.takeWhile (· ≠ '.')).reverse
  if ext.length = rest.length then (p, "")
  else (.ofList (before ++ dots ++ rest.take (rest.length - ext.length - 1)), .ofList ('.' :: ext))

/-- What stands between the slashes of a path, empty names included. -/
def parts (p : String) : List String := (p.toList.splitOn '/').map .ofList

/-- The names of a path, without empty ones and single dots. -/
def names (p : String) : List String := (parts p).filter fun n => n ≠ "" && n ≠ "."

/-- A path without repeated slashes and single dots. -/
def tidy (p : String) : String :=
  let body := "/".intercalate (names p)
  if p.startsWith "//" && !p.startsWith "///" then "//" ++ body
  else if p.startsWith "/" then "/" ++ body
  else if body.isEmpty then "."
  else body

/-- The last name of a path; the root and the empty path have none. -/
def lastName (p : String) : String := (names p).getLastD ""

/-- The end of a name from its last dot on, if something stands on both sides of the dot. -/
def suffix (name : String) : String :=
  let cs := name.toList
  let ext := (cs.reverse.takeWhile (· ≠ '.')).reverse
  if ext.length + 1 < cs.length && !ext.isEmpty then .ofList ('.' :: ext) else ""

/-- A name without its suffix. -/
def stem (name : String) : String :=
  .ofList (name.toList.take (name.length - (suffix name).length))

/-- A tidy path with another suffix. -/
def withSuffix (p ext : String) : String :=
  let name := lastName p
  .ofList (p.toList.take (p.length - name.length)) ++ stem name ++ ext

/-- `b` below `a`, both tidied. -/
def below (a b : String) : String :=
  if b.startsWith "/" then tidy b
  else
    let a := tidy a
    let b := "/".intercalate (names b)
    if b.isEmpty then a
    else if a = "." then b
    else if a.endsWith "/" then a ++ b
    else a ++ "/" ++ b

end ReportMigration.Path
