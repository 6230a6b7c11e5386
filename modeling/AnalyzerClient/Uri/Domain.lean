import AnalyzerClient.Text.Blank
import AnalyzerClient.Unicode.CombiningClass
import AnalyzerClient.Unicode.Direction
import AnalyzerClient.Unicode.DomainMapping
import AnalyzerClient.Unicode.Joining
import AnalyzerClient.Unicode.Mark
import AnalyzerClient.Unicode.Normal
import AnalyzerClient.Uri.Punycode

/-!
# Domain names

A domain name is a list of labels between points. Labels may hold characters of all scripts; in the
ASCII form of a name they are written in Punycode behind `xn--`. A name in ASCII form is read first,
so that both forms of a label obey the same rules.
-/

namespace AnalyzerClient.Uri

open AnalyzerClient.Text AnalyzerClient.Unicode

/-- The ASCII characters that may not stand in a domain name. -/
def isForbiddenInDomain (c : Char) : Bool :=
  c.toNat ≤ 0x20 || c.toNat = 0x7F ||
    ['%', '#', '/', ':', '<', '>', '?', '@', '[', '\\', ']', '^', '|'].contains c

/-- What stands in front of a label that is written in Punycode. -/
def punycodeMark : List Char := ['x', 'n', '-', '-']

/-- How many characters a label may stand for, unless it is its own ASCII form. -/
def maxLabel : Nat := 1000

/-- How many characters a label may be written with in Punycode. -/
def maxPunycode : Nat := 2000

/-- Whether a label is its own ASCII form. -/
def isPlain (label : List Char) : Bool :=
  label.all Punycode.isBasic && !punycodeMark.isPrefixOf label

/-- The normal form of a domain name: every character is replaced by what stands for it. -/
def domainNormalForm? (cs : List Char) : Option (List Char) := do
  let mapped ← cs.mapM domainForm?
  let name := mapped.flatten
  return if name.all Punycode.isBasic then name else normalForm name

/-- The characters that a label stands for. -/
def readLabel? (label : List Char) : Option (List Char) :=
  if punycodeMark.isPrefixOf label then do
    let written := label.drop punycodeMark.length
    if maxPunycode < written.length then none
    let cs ← Punycode.decode? written
    if cs.all Punycode.isBasic || normalForm cs != cs || !cs.all isDomainChar then none
    else some cs
  else some label

/-- The ASCII form of a label. -/
def writeLabel (cs : List Char) : List Char :=
  if cs.all Punycode.isBasic then cs else punycodeMark ++ Punycode.encode cs

/-- The character that allows a joiner behind it whatever else stands around. -/
def isVirama (c : Char) : Bool := combiningClass c = viramaClass

/-- The first character that letters do not join across. -/
def firstJoining? (cs : List Char) : Option Char := cs.find? (!isTransparent ·)

/-- Whether the zero width joiners of a label stand where they may: behind a virama, or, if they
keep letters apart, between letters that would join. `before` is what stands before them, in
reverse. -/
def joinersFit (before : List Char) : List Char → Bool
  | [] => true
  | c :: cs =>
    let fits :=
      if c.toNat = 0x200C then
        before.head?.any isVirama ||
          ((firstJoining? before).any joinsForward && (firstJoining? cs).any joinsBackward)
      else if c.toNat = 0x200D then before.head?.any isVirama
      else true
    fits && joinersFit (c :: before) cs

/-- Whether a label has a letter or a number that is written from the right. -/
def hasRight (cs : List Char) : Bool :=
  cs.any fun c => [Direction.right, .arabic, .arabicDigit].contains (directionOf c)

/-- The classes of the characters that may stand in a label of either direction. -/
def commonDirections : List Direction :=
  [.digit, .numberSign, .numberSeparator, .numberUnit, .neutral, .boundary, .mark]

/-- Whether the characters of a label keep to one direction. -/
def keepsDirection (cs : List Char) : Bool :=
  let classes := cs.map directionOf
  let last? := classes.reverse.find? (· != .mark)
  match classes with
  | [] => true
  | .left :: _ =>
    classes.all (fun d => d = .left || commonDirections.contains d) &&
      last?.any fun d => d = .left || d = .digit
  | .right :: _ | .arabic :: _ =>
    classes.all (fun d =>
        d = .right || d = .arabic || d = .arabicDigit || commonDirections.contains d) &&
      last?.any (fun d => d = .right || d = .arabic || d = .arabicDigit || d = .digit) &&
      !(classes.contains .digit && classes.contains .arabicDigit)
  | _ => false

/-- Whether a label may stand in a domain name. -/
def isLabel (cs : List Char) : Bool :=
  cs.all Punycode.isBasic || (cs.length ≤ maxLabel && !cs.head?.any isMark && joinersFit [] cs)

/-- The ASCII form of a list of labels, if all of them may stand in a domain name together: when one
is written from the right, every label keeps to one direction. -/
def writeLabels? (labels : List (List Char)) : Option (List (List Char)) :=
  let turned := labels.any hasRight
  if labels.all fun label => isLabel label && (!turned || keepsDirection label) then
    some (labels.map writeLabel)
  else none

/-- The ASCII form of a domain name, unless it is not one. -/
def domain? (cs : List Char) : Option (List Char) := do
  let name ← domainNormalForm? cs
  if name.any isForbiddenInDomain then none
  else
    let labels := Chars.pieces (· = '.') name
    if labels.all isPlain then some name
    else
      let labels ← writeLabels? (← labels.mapM readLabel?)
      return ['.'].intercalate labels

end AnalyzerClient.Uri
