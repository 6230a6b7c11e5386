import AnalyzerClient.Text.Blank
import AnalyzerClient.Uri.Host
import AnalyzerClient.Uri.Scheme

/-!
# Authorities

The authority of a URL is a user, if one is named, a host, and a port.
-/

namespace AnalyzerClient.Uri

open AnalyzerClient.Text

/-- An authority in normal form. The user is written with an at sign behind it. -/
structure Authority where
  user : List Char
  host : Host
  port : Option Nat
  deriving DecidableEq, Repr

namespace Authority

/-- Writes an authority. -/
def render (a : Authority) : List Char :=
  a.user ++ a.host.render ++
    match a.port with
    | some port => ':' :: Numeral.digits port
    | none => []

/-- What stands before and after the last at sign. -/
def splitUser? (cs : List Char) : Option (List Char × List Char) :=
  let after := (cs.reverse.takeWhile (· != '@')).reverse
  if after.length = cs.length then none
  else some (cs.take (cs.length - after.length - 1), after)

/-- Writes a user name and, behind the first colon, a password, if they are not empty. -/
def renderUser (cs : List Char) : List Char :=
  let name := escapeChars userEscapes (cs.takeWhile (· != ':'))
  let password := (cs.dropWhile (· != ':')).drop 1
  let text := if password.isEmpty then name else name ++ ':' :: escapeChars userEscapes password
  if text.isEmpty then [] else text ++ ['@']

/-- What stands before and after the first colon outside brackets, the rest with the colon. -/
def splitHost : (inBrackets : Bool) → List Char → List Char × List Char
  | _, [] => ([], [])
  | inBrackets, c :: cs =>
    if c = ':' && !inBrackets then ([], c :: cs)
    else
      let (host, rest) := splitHost (c = '[' || (inBrackets && c != ']')) cs
      (c :: host, rest)

/-- Reads a port behind a colon, and gives what follows. The port that a scheme has anyway is left
out. -/
def readPort? (scheme : Scheme) (cs : List Char) : Option (Option Nat × List Char) :=
  match cs with
  | ':' :: cs =>
    let digits := cs.takeWhile Numeral.isDigit
    let rest := cs.dropWhile Numeral.isDigit
    let port := Numeral.value digits
    if 65535 < port || !(rest.isEmpty || rest.head? = some '\\') then none
    else if digits.isEmpty || scheme = .network port then some (none, rest)
    else some (some port, rest)
  | _ => some (none, cs)

/-- Reads an authority, and gives what follows. A host may be missing in a scheme that is not
special, but then nothing else is named. -/
def read? (scheme : Scheme) (cs : List Char) : Option (Authority × List Char) := do
  let zone := cs.takeWhile (!scheme.endsAuthority ·)
  let behind := cs.dropWhile (!scheme.endsAuthority ·)
  let (user, place) := (splitUser? zone).getD ([], zone)
  if user.isEmpty && place.isEmpty && !zone.isEmpty && !behind.isEmpty then none
  else
    let (text, rest) := splitHost false place
    let host ← if scheme.isSpecial then Host.readSpecial? text else Host.readOther? text
    let user := renderUser user
    if host.isEmpty && (!user.isEmpty || rest.head? = some ':') then none
    else
      let (port, rest) ← readPort? scheme rest
      some (⟨user, host, port⟩, rest ++ behind)

end Authority

end AnalyzerClient.Uri
