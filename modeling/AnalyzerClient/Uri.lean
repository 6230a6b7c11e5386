import AnalyzerClient.Path
import AnalyzerClient.Uri.Authority
import AnalyzerClient.Uri.Path

/-!
# Absolute URLs

A URL is kept as its normal form: `Uri.parse?` reads a text and writes the scheme and the host in
lower case, resolves dots in the path, and escapes octets that may not stand where they stand.
`Uri.ofPath?` is the URL of an absolute file path.
-/

namespace AnalyzerClient

/-- An absolute URL in normal form. -/
structure Uri where
  text : String
  deriving DecidableEq, Repr, Inhabited

namespace Uri

open AnalyzerClient.Text

/-- The URL of an absolute file path. -/
def ofPath? (path : String) : Option Uri :=
  if Path.isAbsolute path then
    let names := (Path.components path).map fun name => escapeChars fileNameEscapes name.toList
    let body := match names with
      | [] => ['/']
      | names => names.flatMap ('/' :: ·)
    some ⟨"file://" ++ String.ofList body⟩
  else none

/-- What stands before a query and a fragment, the query with its mark, and the fragment with its
mark. -/
def splitTail (cs : List Char) : List Char × List Char × List Char :=
  let main := cs.takeWhile fun c => c != '#'
  (main.takeWhile (· != '?'), main.dropWhile (· != '?'), cs.drop main.length)

/-- Writes a query and a fragment. -/
def renderTail (scheme : Scheme) (query fragment : List Char) : List Char :=
  escapeChars (queryEscapes scheme.isSpecial) query ++ escapeChars fragmentEscapes fragment

/-- Splits what follows `file:` into a host and what is behind it. A drive is never a host, and
`localhost` is the same as no host. The path of an empty host begins behind a slash of its own, so
that what follows the next slash is not its first segment. -/
def splitFileHost? (cs : List Char) : Option (List Char × List Char) :=
  match (behindSlash? .file cs).bind (behindSlash? .file) with
  | none => some ([], cs)
  | some rest =>
    let zone := rest.takeWhile (!Scheme.file.endsAuthority ·)
    let behind := rest.drop zone.length
    let name := withoutBreaks zone
    if name.isEmpty || isDrive name then some ([], '/' :: rest)
    else
      (Host.readSpecial? name).map fun host =>
        if host = .name ['l', 'o', 'c', 'a', 'l', 'h', 'o', 's', 't'] then ([], '/' :: behind)
        else (host.render, behind)

/-- The normal form of what follows `file:`. A drive takes the place of a host. -/
def readFile? (cs : List Char) : Option (List Char) := do
  let (host, rest) ← splitFileHost? cs
  let (main, query, fragment) := splitTail rest
  let path := readPath .file main
  let host := if path.hasDrive then [] else host
  return ['/', '/'] ++ host ++ path.render .file ++
    renderTail .file (withoutBreaks query) (withoutBreaks fragment)

/-- The normal form of what follows the colon of a scheme and the slashes of an authority. The path
of a special scheme is never empty. -/
def readHierarchical? (scheme : Scheme) (cs : List Char) : Option (List Char) := do
  let (authority, rest) ← Authority.read? scheme cs
  let (main, query, fragment) := splitTail rest
  let path :=
    if main.isEmpty && !scheme.isSpecial then [] else (readPath scheme main).render scheme
  return ['/', '/'] ++ authority.render ++ path ++ renderTail scheme query fragment

/-- The normal form of what follows the colon of a scheme that is not special. A path must not look
like an authority. -/
def readOther? (cs : List Char) : Option (List Char) :=
  let (main, query, fragment) := splitTail cs
  let tail := renderTail .other query fragment
  match main with
  | '/' :: '/' :: _ => readHierarchical? .other (cs.drop 2)
  | '/' :: _ =>
    let path := (readPath .other main).render .other
    some ((if ['/', '/'].isPrefixOf path then ['/', '.'] ++ path else path) ++ tail)
  | _ => some (escapeChars [] main ++ tail)

/-- The characters of a text without the blanks and controls at its ends. -/
def innerChars (text : String) : List Char :=
  let isEdge (c : Char) : Bool := c.toNat ≤ 0x20
  ((text.toList.dropWhile isEdge).reverse.dropWhile isEdge).reverse

/-- Reads a text as an absolute URL. -/
def parse? (text : String) : Option Uri := do
  let (name, rest) ← splitScheme? (innerChars text)
  let body ← match Scheme.ofName name with
    | .file => readFile? rest
    | .network port =>
      let scheme := Scheme.network port
      readHierarchical? scheme ((withoutBreaks rest).dropWhile scheme.isSlash)
    | .other => readOther? (withoutBreaks rest)
  return ⟨name ++ ":" ++ String.ofList body⟩

end Uri

end AnalyzerClient
