/-!
# File paths

A path is a text with `/` between its components. Empty components and `.` do not count, except that
a path that begins with `/` is absolute.
-/

namespace AnalyzerClient.Path

/-- The pieces of a path between slashes. -/
def pieces (path : String) : List String := (path.toList.splitOn '/').map String.ofList

/-- The directories of a search path, which are separated by colons. -/
def directories (searchPath : Option String) : List String :=
  (searchPath.map (·.splitOn ":")).getD []

/-- Whether a path begins at the root. -/
def isAbsolute (path : String) : Bool := path.toList.head? == some '/'

/-- The components of a path that count. -/
def components (path : String) : List String :=
  (pieces path).filter fun piece => piece != "" && piece != "."

/-- A path relative to a directory. An absolute path stays as it is. -/
def join (directory path : String) : String :=
  if isAbsolute path then path
  else if directory.isEmpty || directory.toList.getLast? == some '/' then directory ++ path
  else directory ++ "/" ++ path

/-- The last component of a path, unless it leads upwards. -/
def fileName? (path : String) : Option String :=
  match (components path).getLast? with
  | some ".." => none
  | last => last

/-- A file name cut at its last point. A point in front of the name does not cut it. -/
def cutName (name : List Char) : List Char × Option (List Char) :=
  let reversed := name.reverse
  let behind := reversed.takeWhile (· != '.')
  match reversed.drop behind.length with
  | [] => (name, none)
  | [_] => (name, none)
  | _ :: before => (before.reverse, some behind.reverse)

/-- What stands behind the last point of a path's file name. -/
def extension? (path : String) : Option String := do
  let name ← fileName? path
  let behind ← (cutName name.toList).2
  return String.ofList behind

/-- What stands before the last point of a path's file name. -/
def stem? (path : String) : Option String :=
  (fileName? path).map fun name => String.ofList (cutName name.toList).1

/-- Drops the pieces at the end of a path, given in reverse, that do not count. -/
def dropEmptyPieces (pieces : List String) : List String :=
  pieces.dropWhile fun piece => piece == "" || piece == "."

/-- The path without its last component. -/
def parent? (path : String) : Option String :=
  if (components path).isEmpty && !(pieces path).contains "." then none
  else if (components path).isEmpty && isAbsolute path then none
  else
    let rest := dropEmptyPieces ((dropEmptyPieces (pieces path).reverse).drop 1)
    match rest.reverse with
    | [] => some (if isAbsolute path then "/" else "")
    | pieces => some ("/".intercalate pieces)

/-- Resolves `.` and `..` in a list of components. -/
def normalize : List String → List String → List String
  | before, [] => before.reverse
  | before, "." :: rest => normalize before rest
  | before, "" :: rest => normalize before rest
  | before, ".." :: rest => normalize (before.drop 1) rest
  | before, c :: rest => normalize (c :: before) rest

/-- The place that a path names, seen from a directory that is given by an absolute path. -/
def resolve (directory path : String) : String :=
  "/" ++ "/".intercalate (normalize [] (pieces (join directory path)))

end AnalyzerClient.Path
