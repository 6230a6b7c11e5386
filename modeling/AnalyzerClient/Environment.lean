import AnalyzerClient.Dict

/-!
# Environments as programs see them

A variable is handed to a program as one text, in which an equals sign joins its name and its value.
Programs are started through a launcher, which makes variables of these texts and hands them on.
For a name without an equals sign nothing is lost on the way; a name that has one is cut there.
-/

namespace AnalyzerClient.Environment

/-- The texts of variables, in the order of their names. -/
def handOver (env : Dict String) : List String :=
  env.map fun (name, value) => name ++ "=" ++ value

/-- The name and the value of a text: the name ends at the first equals sign behind its first
character. A text without a name is no variable. -/
def split? (text : String) : Option (String × String) :=
  match text.toList with
  | [] => none
  | c :: cs =>
    match cs.dropWhile (· != '=') with
    | [] => none
    | _ :: value => some (String.ofList (c :: cs.takeWhile (· != '=')), String.ofList value)

/-- The variables of texts; of equal names the last one counts. -/
def take (texts : List String) : Dict String := Dict.ofList (texts.filterMap split?)

/-- What stands behind a name and an equals sign in a text that begins with them. -/
def valueIn? (name text : String) : Option String :=
  let front := name.toList ++ ['=']
  if front.isPrefixOf text.toList then some (String.ofList (text.toList.drop front.length))
  else none

/-- The value that a program finds for a name among variables: that of the first text that begins
with the name. -/
def lookup? (env : Dict String) (name : String) : Option String :=
  if name.isEmpty then none else (handOver (take (handOver env))).findSome? (valueIn? name)

end AnalyzerClient.Environment
