import AnalyzerClient.FileTree
import AnalyzerClient.Protocol.Error
import AnalyzerClient.Settings.Config
import AnalyzerClient.Text.Blank

/-!
# Finding the server

The server's binary is the configured one, else the one in the directory of installations, else the
first one in the directories of the search path.
-/

namespace AnalyzerClient.Server

open AnalyzerClient.Protocol (Error)
open AnalyzerClient.Settings (ServerSettings TraceLevel)

/-- The name of the server and of its binary. -/
def serverName : String := "webby-analyzer"

/-- The language that the server is for. -/
def languageId : String := "webby"

/-- The language of every other document. -/
def otherLanguage : String := "plaintext"

/-- The directory of installations below the directory of data. -/
def installDirectory (data : String) : String := Path.join (Path.join data "webby") "bin"

/-- Where the binary can be, the first place first. -/
def candidates (settings : ServerSettings) (install path : Option String) : List String :=
  settings.path.toList ++
    (install.toList ++ Path.directories path).map fun directory => Path.join directory serverName

/-- The server's binary: the first candidate that is a file. -/
def resolve (isFile : String → Bool) (settings : ServerSettings) (install path : Option String) :
    Except Error String :=
  let places := candidates settings install path
  match places.find? isFile with
  | some place => .ok place
  | none => .error (.serverNotFound serverName places)

/-- How a server is started and used. -/
structure Config where
  languageId : String
  name : String
  command : String
  args : List String
  env : Dict String
  /-- The extensions of the files that the server is for. -/
  extensions : List String
  initializationOptions : Option Json
  trace : TraceLevel

namespace Config

/-- The configuration of the analyzer. -/
def analyzer (command : String) : Config where
  languageId := Server.languageId
  name := serverName
  command := command
  args := []
  env := []
  extensions := ["wby"]
  initializationOptions := none
  trace := .off

/-- The configuration of a binary with the settings applied. -/
def ofSettings (command : String) (settings : ServerSettings) (trace : TraceLevel) : Config :=
  { analyzer command with env := settings.extraEnv, trace := trace }

/-- Whether a file is one that the server is for. -/
def handles (c : Config) (path : String) : Bool :=
  (Path.extension? path).any c.extensions.contains

/-- The language of a file that the server is for. -/
def languageOf? (c : Config) (path : String) : Option String :=
  if c.handles path then some c.languageId else none

end Config

end AnalyzerClient.Server
