import AnalyzerClient.Dict
import AnalyzerClient.OsError
import AnalyzerClient.Path

/-!
# Files as data

A tree of files is a dictionary from absolute paths to files and directories. Every operation is
given the directory from which relative paths are seen. Reading and writing fail as a file system
fails.
-/

namespace AnalyzerClient

/-- What stands at a path. -/
inductive FileNode where
  | file (content : List UInt8) (executable : Bool)
  | directory
  deriving Repr

/-- Files and directories by their resolved absolute paths, and the directory from which relative
paths are seen. The root is always there. -/
structure FileTree where
  nodes : Dict FileNode
  directory : String

namespace FileTree

/-- The tree with only the root. -/
def empty : FileTree := ⟨[], "/"⟩

/-- The path of a list of components, given from the last to the first. -/
def pathOf (reversed : List String) : String := "/" ++ "/".intercalate reversed.reverse

/-- What stands at a resolved path. -/
def node? (t : FileTree) (path : String) : Option FileNode :=
  if path == "/" then some .directory else t.nodes.get? path

/-- The longest name of a file or directory, in octets. -/
def maxName : Nat := 255

/-- The longest path, in octets. -/
def maxPath : Nat := 4095

/-- Whether a path can be handed to a file system at all. -/
def checkPath (path : String) : Except OsError Unit :=
  if path.toList.contains (Char.ofNat 0) then .error .nulInName
  else if path.isEmpty then .error .notFound
  else if maxPath < path.utf8ByteSize then .error .nameTooLong
  else .ok ()

/-- Follows the pieces of a path from a place on, which is given by its components from the last to
the first. Every place on the way but the last must be a directory. -/
def walk (t : FileTree) : (place pieces : List String) → Except OsError (List String)
  | place, [] => if (t.node? (pathOf place)).isSome then .ok place else .error .notFound
  | place, piece :: rest =>
    match t.node? (pathOf place) with
    | none => .error .notFound
    | some (.file _ _) => .error .notDirectory
    | some .directory =>
      if piece == "" || piece == "." then walk t place rest
      else if piece == ".." then walk t (place.drop 1) rest
      else if maxName < piece.utf8ByteSize then .error .nameTooLong
      else walk t (piece :: place) rest

/-- The place that a path leads to. -/
def locate (t : FileTree) (path : String) : Except OsError (List String) := do
  checkPath path
  walk t [] (Path.pieces (Path.join t.directory path))

/-- What a path names that may be new: a name in a directory, or a directory that is there for
sure. -/
inductive Target where
  | entry (directory : List String) (name : String)
  | directory

/-- What a path names that may be new; all but its last component must be there. -/
def target (t : FileTree) (path : String) : Except OsError Target := do
  checkPath path
  match (Path.pieces (Path.join t.directory path)).reverse.dropWhile (· == "") with
  | [] => return .directory
  | name :: above =>
    let place ← walk t [] above.reverse
    match t.node? (pathOf place) with
    | some .directory =>
      return if name == "." || name == ".." then .directory else .entry place name
    | _ => throw .notDirectory

/-- What stands at a path. -/
def find (t : FileTree) (path : String) : Except OsError FileNode := do
  match t.node? (pathOf (← t.locate path)) with
  | some node => return node
  | none => throw .notFound

/-- Whether something stands at a path. -/
def contains (t : FileTree) (path : String) : Bool := (t.find path).toOption.isSome

/-- Whether a file stands at a path. -/
def isFile (t : FileTree) (path : String) : Bool :=
  match t.find path with
  | .ok (.file _ _) => true
  | _ => false

/-- Whether a directory stands at a path. -/
def isDirectory (t : FileTree) (path : String) : Bool :=
  match t.find path with
  | .ok .directory => true
  | _ => false

/-- The octets of a file. -/
def read (t : FileTree) (path : String) : Except OsError (List UInt8) := do
  match ← t.find path with
  | .file content _ => return content
  | .directory => throw .isDirectory

/-- The text of a file. -/
def readText (t : FileTree) (path : String) : Except OsError String := do
  match Text.Utf8.decode? (← t.read path) with
  | some text => return text
  | none => throw .notText

/-- The tree with something else at a place. -/
def set (t : FileTree) (place : List String) (node : FileNode) : FileTree :=
  { t with nodes := t.nodes.insert (pathOf place) node }

/-- Makes a directory below one that is there. -/
def makeDirectory (t : FileTree) (path : String) : Except OsError FileTree := do
  match ← t.target path with
  | .directory => throw .exists
  | .entry place name =>
    if maxName < name.utf8ByteSize then throw .nameTooLong
    else if (t.node? (pathOf (name :: place))).isSome then throw .exists
    else return t.set (name :: place) .directory

/-- Makes a directory that may be there already. -/
def ensureDirectory (t : FileTree) (path : String) : Except OsError Unit × FileTree :=
  match t.makeDirectory path with
  | .ok t => (.ok (), t)
  | .error e => (if t.isDirectory path then .ok () else .error e, t)

/-- Makes a directory, and first those above it that are missing; at most `fuel` of them.
Directories that were made stay when another cannot be made. -/
def makeDirectoriesWithin : (fuel : Nat) → FileTree → String → Except OsError Unit × FileTree
  | 0, t, _ => (.error .notFound, t)
  | fuel + 1, t, path =>
    if path.isEmpty then (.ok (), t)
    else
      match t.ensureDirectory path with
      | (.error .notFound, t) =>
        match Path.parent? path with
        | none => (.error .notFound, t)
        | some parent =>
          match makeDirectoriesWithin fuel t parent with
          | (.error e, t) => (.error e, t)
          | (.ok (), t) => t.ensureDirectory path
      | made => made

/-- Makes a directory and those above it that are missing. -/
def makeDirectories (t : FileTree) (path : String) : Except OsError Unit × FileTree :=
  makeDirectoriesWithin ((Path.pieces path).length + 1) t path

/-- Writes a file into a directory that is there. A path that ends with a slash names a directory,
whatever is there. -/
def write (t : FileTree) (path : String) (content : List UInt8) : Except OsError FileTree := do
  match ← t.target path with
  | .directory => throw .isDirectory
  | .entry place name =>
    if path.toList.getLast? == some '/' then throw .isDirectory
    else if maxName < name.utf8ByteSize then throw .nameTooLong
    else
      match t.node? (pathOf (name :: place)) with
      | some .directory => throw .isDirectory
      | some (.file _ executable) => return t.set (name :: place) (.file content executable)
      | none => return t.set (name :: place) (.file content false)

/-- Puts a file or directory at a path, with the directories above it. -/
def place (t : FileTree) (path : String) (node : FileNode) : FileTree :=
  let names := Path.normalize [] (Path.pieces (Path.join t.directory path))
  let above := (List.range names.length).map fun n => (names.take n).reverse
  ((above.filter (!·.isEmpty)).foldl (fun t place => t.set place .directory) t).set
    names.reverse node

end FileTree

end AnalyzerClient
