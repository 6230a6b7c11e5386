import AnalyzerClient.Runnable.Basic

/-!
# Runnables in JSON

A runnable is an object with a label, an optional location, a kind and arguments that depend on the
kind. Members that are not known are read and forgotten.
-/

namespace AnalyzerClient

open AnalyzerClient.Json (Decoder Draft Fault Record)
open AnalyzerClient.Protocol (member?)

namespace BuildTask

/-- The value of a task. -/
def toJson (t : BuildTask) : Json :=
  .mkObject <| member? "workspaceRoot" .string t.workspaceRoot ++ [
    ("executableArgs", .ofStrings t.executableArgs),
    ("webbyArgs", .ofStrings t.toolArgs)] ++
    member? "overrideWebby" .string t.overrideTool ++
    member? "environment" .ofDict t.environment ++ [("cwd", .string t.directory)]

/-- The fields of a task. -/
def record : Record BuildTask :=
  BuildTask.mk <$> .defaultedOptional "workspaceRoot" Decoder.string
    <*> .defaulted "executableArgs" (Decoder.list Decoder.string) []
    <*> .defaulted "webbyArgs" (Decoder.list Decoder.string) []
    <*> .defaultedOptional "overrideWebby" Decoder.string
    <*> .defaultedOptional "environment" (Decoder.dict Decoder.string)
    <*> .required "cwd" Decoder.string

end BuildTask

namespace ShellTask

/-- The value of a task. -/
def toJson (t : ShellTask) : Json :=
  .mkObject <| [("program", .string t.program), ("args", .ofStrings t.args)] ++
    member? "environment" .ofDict t.environment ++ [("cwd", .string t.directory)]

/-- The fields of a task. -/
def record : Record ShellTask :=
  ShellTask.mk <$> .required "program" Decoder.string
    <*> .defaulted "args" (Decoder.list Decoder.string) []
    <*> .defaultedOptional "environment" (Decoder.dict Decoder.string)
    <*> .required "cwd" Decoder.string

end ShellTask

/-- The kinds of tasks. -/
inductive Task.Kind where
  | build
  | shell
  deriving DecidableEq, Repr

namespace Task

/-- The name of a kind. -/
def Kind.name : Kind → String
  | .build => "webby"
  | .shell => "shell"

/-- The kind with a name. -/
def Kind.ofName? : String → Option Kind
  | "webby" => some .build
  | "shell" => some .shell
  | _ => none

/-- The kind of a task. -/
def kind : Task → Kind
  | .build _ => .build
  | .shell _ => .shell

/-- The value of a task's arguments. -/
def argsToJson : Task → Json
  | .build task => task.toJson
  | .shell task => task.toJson

/-- Decodes the arguments of a kind. -/
def decodeArgs : Kind → Decoder Task
  | .build => fun d => (BuildTask.record.decode d).map .build
  | .shell => fun d => (ShellTask.record.decode d).map .shell

/-- The only member with a name. -/
def onlyMember (name : String) : Decoder Draft
  | .object members =>
    match members.filter fun (key, _) => key.toOption == some name with
    | [(_, d)] => .ok d
    | _ => .error .mismatch
  | _ => .error .mismatch

/-- Decodes the task of an object, whose other members do not matter. -/
def decode : Decoder Task := fun d => do
  let kind ← Decoder.namedWith Decoder.unitOrEmpty Kind.ofName? (← onlyMember "kind" d)
  decodeArgs kind (← onlyMember "args" d)

end Task

namespace Runnable

/-- The value of a runnable. -/
def toJson (r : Runnable) : Json :=
  .mkObject <| [("label", .string r.label)] ++
    member? "location" Protocol.LocationLink.toJson r.location ++ [
    ("kind", .string r.task.kind.name), ("args", r.task.argsToJson)]

/-- The fields of a runnable beside its task. -/
def record : Record (Task → Runnable) :=
  Runnable.mk <$> .required "label" Decoder.string
    <*> .defaultedOptional "location" Protocol.LocationLink.decode

/-- Decodes a runnable. It must be an object whose other members have values. Its task is decoded
when all of it is read, so that only the shape of the task can be wrong then. -/
def decode : Decoder Runnable := fun d => do
  let r ← record.decodeObject (fun d => d.value.map fun _ => ()) d
  let task ← (Task.decode d).mapError fun _ => Fault.mismatch
  return r task

end Runnable

end AnalyzerClient
