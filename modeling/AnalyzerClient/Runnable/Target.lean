import AnalyzerClient.Runnable.Basic

/-!
# The artifact that a runnable builds

Which of the artifacts of a build is the one to debug follows from the arguments of the build tool.
-/

namespace AnalyzerClient

/-- The kinds of artifacts that a flag selects. -/
inductive ArtifactKind where
  | bin
  | lib
  | test
  | exampleProgram
  | bench
  deriving DecidableEq, Repr

namespace ArtifactKind

/-- The name of a kind. -/
def name : ArtifactKind → String
  | .bin => "bin"
  | .lib => "lib"
  | .test => "test"
  | .exampleProgram => "example"
  | .bench => "bench"

/-- The kind with a name. -/
def ofName? : String → Option ArtifactKind
  | "bin" => some .bin
  | "lib" => some .lib
  | "test" => some .test
  | "example" => some .exampleProgram
  | "bench" => some .bench
  | _ => none

/-- The kind that a flag selects. -/
def ofFlag? (flag : String) : Option ArtifactKind :=
  match flag.toList with
  | '-' :: '-' :: name => ofName? (String.ofList name)
  | _ => none

end ArtifactKind

/-- An artifact of a build. -/
structure Artifact where
  kinds : List String
  name : String
  deriving DecidableEq, Repr, Inhabited

/-- What is known of the artifact to debug. -/
structure ArtifactFilter where
  kind : Option ArtifactKind
  name : Option String
  deriving DecidableEq, Repr

namespace ArtifactFilter

/-- The filter that every artifact passes. -/
def all : ArtifactFilter := ⟨none, none⟩

/-- The first flag that selects a kind, and the argument behind it. -/
def firstKind? : List String → Option (ArtifactKind × Option String)
  | [] => none
  | arg :: rest =>
    match ArtifactKind.ofFlag? arg with
    | some kind => some (kind, rest.head?)
    | none => firstKind? rest

/-- The flag that names a package. -/
def packageFlag : String := "--package"

/-- The argument behind the first flag that names a package. -/
def packageName? : List String → Option String
  | [] => none
  | arg :: rest => if arg = packageFlag then rest.head? else packageName? rest

/-- The filter of the arguments of the build tool. The name stands behind the flag for the kind, but
a library has the name of its package, and so has what no flag selects. -/
def ofArgs (args : List String) : ArtifactFilter :=
  match firstKind? args with
  | some (.lib, _) => ⟨some .lib, packageName? args⟩
  | some (kind, name) => ⟨some kind, name⟩
  | none => ⟨none, packageName? args⟩

/-- The filter for what a task builds. -/
def ofTask : Task → ArtifactFilter
  | .build task => ofArgs task.toolArgs
  | .shell _ => all

/-- Whether an artifact passes a filter. -/
def accepts (f : ArtifactFilter) (a : Artifact) : Bool :=
  f.kind.all (fun kind => a.kinds.contains kind.name) && f.name.all (· == a.name)

end ArtifactFilter

end AnalyzerClient
