/-!
# Comments in settings files

Settings files are JSON with comments: a line comment goes from `//` to the end of its line, and a
block comment from `/*` to the next `*/`. Inside of strings there are no comments. A comment that is
never closed goes to the end of the text.
-/

namespace AnalyzerClient.Settings

/-- Where a scan of a settings text stands. -/
inductive Scan where
  /-- Outside of strings and comments. -/
  | plain
  /-- Inside a string; after a backslash when `escaped` holds. -/
  | string (escaped : Bool)
  | lineComment
  /-- Inside a block comment; after a star that may close it when `star` holds. -/
  | blockComment (star : Bool)
  deriving DecidableEq, Repr

/-- Drops the comments of a text. The newline that ends a line comment stays. -/
def stripFrom : Scan → List Char → List Char
  | _, [] => []
  | .string escaped, c :: cs =>
    c :: stripFrom
      (if escaped then .string false
        else if c = '\\' then .string true
        else if c = '"' then .plain
        else .string false) cs
  | .lineComment, c :: cs =>
    if c = '\n' then c :: stripFrom .plain cs else stripFrom .lineComment cs
  | .blockComment star, c :: cs =>
    if star && c = '/' then stripFrom .plain cs else stripFrom (.blockComment (c = '*')) cs
  | .plain, '/' :: '/' :: cs => stripFrom .lineComment cs
  | .plain, '/' :: '*' :: cs => stripFrom (.blockComment false) cs
  | .plain, c :: cs => c :: stripFrom (if c = '"' then .string false else .plain) cs

/-- Drops the comments of a text. -/
def stripComments (text : List Char) : List Char := stripFrom .plain text

end AnalyzerClient.Settings
