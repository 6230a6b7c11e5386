import AnalyzerClient.Text.Utf8

/-!
# Failures of the operating system

What can go wrong with files, processes and pipes, and how it is worded.
-/

namespace AnalyzerClient

/-- A failure of an operation on files, processes or pipes. -/
inductive OsError where
  | notFound
  | permissionDenied
  | exists
  | notDirectory
  | isDirectory
  | brokenPipe
  | nameTooLong
  /-- A file that should be text is not. -/
  | notText
  /-- A line that should be text is not. -/
  | badLine (e : Text.Utf8.Error)
  /-- A stream ended inside of a part of known length. -/
  | earlyEnd
  /-- A text with a NUL was handed to a process. -/
  | nul
  /-- A file name has a NUL. -/
  | nulInName
  /-- A failure with a wording of its own. -/
  | other (message : String)
  deriving DecidableEq, Repr

/-- The wording of a failure. -/
def OsError.message : OsError → String
  | .notFound => "No such file or directory (os error 2)"
  | .permissionDenied => "Permission denied (os error 13)"
  | .exists => "File exists (os error 17)"
  | .notDirectory => "Not a directory (os error 20)"
  | .isDirectory => "Is a directory (os error 21)"
  | .brokenPipe => "Broken pipe (os error 32)"
  | .nameTooLong => "File name too long (os error 36)"
  | .notText => "stream did not contain valid UTF-8"
  | .badLine e => e.message
  | .earlyEnd => "early eof"
  | .nul => "nul byte found in provided data"
  | .nulInName => "file name contained an unexpected NUL byte"
  | .other message => message

end AnalyzerClient
