import AnalyzerClient.Uri.Address
import AnalyzerClient.Uri.Domain
import AnalyzerClient.Uri.Escape

/-!
# Hosts

The host of a special scheme is an address or a domain name. Elsewhere it is an address in brackets
or any text without delimiters.
-/

namespace AnalyzerClient.Uri

open AnalyzerClient.Text

/-- A host in normal form. -/
inductive Host where
  | ipv4 (address : Ipv4)
  | ipv6 (address : Ipv6)
  | name (text : List Char)
  deriving DecidableEq, Repr

namespace Host

/-- Writes a host. -/
def render : Host → List Char
  | .ipv4 a => a.render
  | .ipv6 a => '[' :: a.render ++ [']']
  | .name text => text

/-- Whether a host is an empty name. -/
def isEmpty : Host → Bool
  | .name [] => true
  | _ => false

/-- The characters that may not stand in a host of a scheme that is not special. -/
def forbidden : List Char :=
  [' ', '#', '/', ':', '<', '>', '?', '@', '[', '\\', ']', '^', '|', '\t', '\n', '\r', Char.ofNat 0]

/-- Reads an address in brackets, of which the first one is passed. -/
def readBracketed? (cs : List Char) : Option Host :=
  if cs.getLast? = some ']' then (Ipv6.read? cs.dropLast).map .ipv6 else none

/-- Reads a host of a special scheme. -/
def readSpecial? (cs : List Char) : Option Host :=
  match cs with
  | '[' :: cs => readBracketed? cs
  | cs => do
    let text ← Utf8.decode? (unescape cs)
    let name ← domain? text.toList
    if name.isEmpty then none
    else if Ipv4.isMeant name then (Ipv4.read? name).map .ipv4
    else some (.name name)

/-- Reads a host of a scheme that is not special. -/
def readOther? (cs : List Char) : Option Host :=
  match cs with
  | '[' :: cs => readBracketed? cs
  | cs => if cs.any forbidden.contains then none else some (.name (escapeChars [] cs))

end Host

end AnalyzerClient.Uri
