import ReportMigration.Fault
import ReportMigration.Files.Path
/-!
Files and folders.

A file holds a `Content`: a text, or an archive of named texts. A `Node` is a file or a folder, and a
`Disk` a root folder with the working folder that relative paths start from.

* `Disk.locate` follows a path, through single and double dots, to the place it names;
* `Disk.read`, `Disk.write`, `Disk.makeFolders`, `Disk.remove` act there, or say why they cannot.
-/
namespace ReportMigration

/-- What a file or an object holds. -/
inductive Content where
  | text (s : String)
  /-- An archive, by the names and texts of its entries. -/
  | archive (entries : List (String × String))
  deriving DecidableEq

/-- A content as a text; an archive is none, unless it is empty. -/
def Content.decoded : Content → Except Fault String
  | text s => .ok s
  | archive [] => .ok ("PK\x05\x06" ++ .ofList (List.replicate 18 '\x00'))
  | archive _ => .error (.failure .octets "'utf-8' codec can't decode bytes")

/-- A file or a folder. -/
inductive Node where
  | file (c : Content)
  | folder (entries : List (String × Node))

/-- Why a path cannot be used. -/
inductive PathError where
  | missing
  | notFolder
  | isFolder
  | present
  deriving DecidableEq

/-- The fault for a path that cannot be used. -/
def PathError.fault (path : String) : PathError → Fault
  | missing => .failure .fileNotFound ("[Errno 2] No such file or directory: " ++ Text.quoted path)
  | notFolder => .failure .notDirectory ("[Errno 20] Not a directory: " ++ Text.quoted path)
  | isFolder => .failure .isDirectory ("[Errno 21] Is a directory: " ++ Text.quoted path)
  | present => .failure .fileExists ("[Errno 17] File exists: " ++ Text.quoted path)

namespace Node

/-- The entry of a name in a folder. -/
def child? (name : String) (es : List (String × Node)) : Option Node :=
  (es.find? fun e => e.1 = name).map (·.2)

/-- The entries of a folder with one set, in the order of their names. -/
def setEntry (name : String) (n : Node) : List (String × Node) → List (String × Node)
  | [] => [(name, n)]
  | (k, m) :: es =>
    if name = k then (name, n) :: es
    else if name < k then (name, n) :: (k, m) :: es
    else (k, m) :: setEntry name n es

/-- The node that names lead to. -/
def get? : Node → List String → Option Node
  | n, [] => some n
  | folder es, k :: ks => (child? k es).bind fun n => n.get? ks
  | file _, _ :: _ => none

/-- The tree with the node that names lead to replaced; names that lead nowhere change nothing. -/
def set : Node → List String → Node → Node
  | _, [], new => new
  | folder es, [k], new => folder (setEntry k new es)
  | folder es, k :: ks, new =>
    match child? k es with
    | some n => folder (setEntry k (set n ks new) es)
    | none => folder es
  | file c, _ :: _, _ => file c

/-- The tree without the node that names lead to. -/
def erase : Node → List String → Node
  | n, [] => n
  | folder es, [k] => folder (es.filter fun e => e.1 ≠ k)
  | folder es, k :: ks =>
    match child? k es with
    | some n => folder (setEntry k (erase n ks) es)
    | none => folder es
  | file c, _ :: _ => file c

def isFolder : Node → Bool
  | folder _ => true
  | file _ => false

mutual

/-- The files of a tree with their names, in order, below the path `base`. -/
def files (base : String) : Node → List (String × Content)
  | file c => [(base, c)]
  | folder es => entryFiles base es

/-- The files of the entries of a folder. -/
def entryFiles (base : String) : List (String × Node) → List (String × Content)
  | [] => []
  | (k, n) :: es => files (Path.join base k) n ++ entryFiles base es

end

mutual

/-- The path of the first file of a name in a tree: a folder is looked at before those in it. -/
def find? (name base : String) : Node → Option String
  | file _ => none
  | folder es =>
    match child? name es with
    | some (file _) => some (Path.join base name)
    | _ => findEntry? name base es

/-- The same for the folders among the entries of a folder. -/
def findEntry? (name base : String) : List (String × Node) → Option String
  | [] => none
  | (k, n) :: es =>
    match find? name (Path.join base k) n with
    | some p => some p
    | none => findEntry? name base es

end

end Node

/-- All files, and the working folder that paths start from. -/
structure Disk where
  root : Node := .folder [("work", .folder [])]
  here : List String := ["work"]

namespace Disk

/-- Follows `names` from the place `at`, whose names are given the last first. After a name that leads
    nowhere there may be slashes, but nothing else. -/
def follow (root : Node) : List String → List String → Except PathError (List String)
  | at', [] => .ok at'.reverse
  | at', name :: rest =>
    if name = "" || name = "." then follow root at' rest
    else if name = ".." then follow root (at'.drop 1) rest
    else match rest with
      | [] => .ok (name :: at').reverse
      | _ =>
        match root.get? (name :: at').reverse with
        | some (.folder _) => follow root (name :: at') rest
        | some (.file _) => .error .notFolder
        | none => if rest.all (· = "") then .ok (name :: at').reverse else .error .missing

/-- The place that a path names. All names on the way have to be folders. -/
def locate (d : Disk) (path : String) : Except PathError (List String) :=
  if path.isEmpty then .error .missing
  else follow d.root (if path.startsWith "/" then [] else d.here.reverse) (Path.parts path)

/-- The node at a path. -/
def node? (d : Disk) (path : String) : Option Node :=
  match d.locate path with
  | .ok p => d.root.get? p
  | .error _ => none

def isFolder (d : Disk) (path : String) : Bool := (d.node? path).any Node.isFolder

def has (d : Disk) (path : String) : Bool := (d.node? path).isSome

/-- The content of the file at a path. -/
def read (d : Disk) (path : String) : Except Fault Content :=
  match d.locate path with
  | .error e => .error (e.fault path)
  | .ok p => match d.root.get? p with
    | some (.file c) => if path.endsWith "/" then .error (PathError.notFolder.fault path) else .ok c
    | some (.folder _) => .error (PathError.isFolder.fault path)
    | none => .error (PathError.missing.fault path)

/-- Writes a file. The folder it lies in has to exist. -/
def write (d : Disk) (path : String) (c : Content) : Except Fault Disk :=
  match d.locate path with
  | .error e => .error (e.fault path)
  | .ok p => match d.root.get? p with
    | some (.folder _) => .error (PathError.isFolder.fault path)
    | some (.file _) =>
      if path.endsWith "/" then .error (PathError.notFolder.fault path)
      else .ok { d with root := d.root.set p (.file c) }
    | none =>
      if path.endsWith "/" then .error (PathError.isFolder.fault path)
      else if (d.root.get? p.dropLast).any Node.isFolder then
        .ok { d with root := d.root.set p (.file c) }
      else .error (PathError.missing.fault path)

/-- Makes one folder. -/
def makeFolder (d : Disk) (path : String) : Except PathError Disk :=
  match d.locate path with
  | .error e => .error e
  | .ok p => match d.root.get? p with
    | some _ => .error .present
    | none => match d.root.get? p.dropLast with
      | some (.folder _) => .ok { d with root := d.root.set p (.folder []) }
      | some (.file _) => .error .notFolder
      | none => .error .missing

/-- The paths of the folders that lead to a path, the outermost first, itself last. -/
def ancestors (path : String) : List String :=
  let parts := Path.parts path
  let heads := (List.range parts.length).map fun i => "/".intercalate (parts.take (i + 1))
  heads.filter fun p => !p.isEmpty

/-- The fault of folders that cannot be made because of one on the way. A file in the way is no folder
    for the next one to lie in. -/
def wayFault (path : String) (e : PathError) (p : String) : Fault :=
  match e, ((ancestors path).dropWhile (· ≠ p)).drop 1 with
  | .present, next :: _ => PathError.notFolder.fault next
  | e, _ => e.fault p

/-- Makes a folder and all those that lead to it, where they are missing. -/
def makeFolders (d : Disk) (path : String) : Except Fault Disk :=
  if path.isEmpty then .error (PathError.missing.fault path)
  else
    let go := (ancestors path).foldlM (fun d p =>
      match d.makeFolder p with
      | .ok d => Except.ok d
      | .error e => if d.isFolder p then .ok d else .error (e, p)) d
    match go with
    | .ok d => .ok d
    | .error (e, p) => .error (wayFault path e p)

/-- Removes a file. -/
def remove (d : Disk) (path : String) : Except Fault Disk :=
  match d.locate path with
  | .error e => .error (e.fault path)
  | .ok p => match d.root.get? p with
    | some (.file _) => .ok { d with root := d.root.erase p }
    | some (.folder _) => .error (PathError.isFolder.fault path)
    | none => .error (PathError.missing.fault path)

/-- Removes a folder with all it holds. -/
def removeFolder (d : Disk) (path : String) : Except Fault Disk :=
  match d.locate path with
  | .error e => .error (e.fault path)
  | .ok p => match d.root.get? p with
    | some (.folder _) => .ok { d with root := d.root.erase p }
    | some (.file _) => .error (PathError.notFolder.fault path)
    | none => .error (PathError.missing.fault path)

/-- The names in a folder, in order. -/
def list (d : Disk) (path : String) : Except Fault (List (String × Node)) :=
  match d.locate path with
  | .error e => .error (e.fault path)
  | .ok p => match d.root.get? p with
    | some (.folder es) => .ok es
    | some (.file _) => .error (PathError.notFolder.fault path)
    | none => .error (PathError.missing.fault path)

/-- All files below the working folder, by their paths from there. -/
def workingFiles (d : Disk) : List (String × Content) :=
  match d.root.get? d.here with
  | some n => n.files ""
  | none => []

end Disk

end ReportMigration
