import ReportMigration.Files.Disk
/-!
Unpacking archives.

An entry is put below the folder that an archive is unpacked to, whatever its name says: empty names,
single and double dots are left out of its path.
-/
namespace ReportMigration.Disk

/-- The path of an entry below the folder that an archive is unpacked to. -/
def entryPath (name : String) : String :=
  "/".intercalate ((Path.parts name).filter fun n => n ≠ "" && n ≠ "." && n ≠ "..")

/-- Puts an entry below a folder; a name that ends in a slash is that of a folder. -/
def unpackEntry (d : Disk) (folder : String) (entry : String × String) : Except Fault Disk := do
  let path := Path.below folder (entryPath entry.1)
  let upper := Path.dirName path
  let d ← if upper.isEmpty || d.has upper then pure d else d.makeFolders upper
  if entry.1.endsWith "/" then
    if d.isFolder path then return d
    else (d.makeFolder path).mapError (·.fault path)
  else d.write path (.text entry.2)

/-- The files below a path with their contents as texts, named from `base` on. -/
def textsBelow (d : Disk) (path base : String) : List (String × String) :=
  match d.node? path with
  | some (.folder es) => (Node.entryFiles base es).map fun
    | (n, .text s) => (n, s)
    | (n, .archive _) => (n, "")
  | _ => []

/-- Removes a folder, as far as there is one. -/
def clear (d : Disk) (path : String) : Disk :=
  match d.removeFolder path with
  | .ok d => d
  | .error _ => d

end ReportMigration.Disk
