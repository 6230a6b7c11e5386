/-!
# Schemes

A URL begins with the name of its scheme. Some schemes are special: their URLs have a hierarchical
path, and a backslash counts as a slash. Tabs and line ends may stand anywhere and do not count.
-/

namespace AnalyzerClient.Uri

/-- What a scheme is like. -/
inductive Scheme where
  /-- Files, on a host or without one. -/
  | file
  /-- A special scheme whose URLs have a host, which is reached at a port unless another is named.
  -/
  | network (port : Nat)
  /-- A scheme that is not special. -/
  | other
  deriving DecidableEq, Repr

namespace Scheme

/-- What the scheme of a name is like. -/
def ofName : String → Scheme
  | "file" => .file
  | "http" | "ws" => .network 80
  | "https" | "wss" => .network 443
  | "ftp" => .network 21
  | _ => .other

/-- Whether a scheme is special. -/
def isSpecial (s : Scheme) : Bool := s != .other

/-- Whether a character is a slash in the URLs of a scheme. -/
def isSlash (s : Scheme) (c : Char) : Bool := c = '/' || (s.isSpecial && c = '\\')

/-- Whether an authority ends before a character. -/
def endsAuthority (s : Scheme) (c : Char) : Bool := s.isSlash c || c = '?' || c = '#'

end Scheme

/-- Whether a character is a tab or a line end, which does not count in a URL. -/
def isBreak (c : Char) : Bool := c = '\t' || c = '\n' || c = '\r'

/-- The characters that count. -/
def withoutBreaks (cs : List Char) : List Char := cs.filter fun c => !isBreak c

/-- Whether a character may stand in a scheme behind its first letter. -/
def isSchemeChar (c : Char) : Bool := c.isAlphanum || c = '+' || c = '-' || c = '.'

/-- The scheme in lower case and what follows its colon. -/
def splitScheme? (cs : List Char) : Option (String × List Char) :=
  let name := withoutBreaks (cs.takeWhile (· != ':'))
  match name, cs.dropWhile (· != ':') with
  | c :: _, _ :: rest =>
    if c.isAlpha && name.all isSchemeChar then
      some (String.ofList (name.map Char.toLower), rest)
    else none
  | _, _ => none

end AnalyzerClient.Uri
