import AnalyzerClient.CommandLine.Program
import AnalyzerClient.Proofs.Client.Alone
import AnalyzerClient.Proofs.Runnable.Choosing

/-!
# What a command asks its server

A command that was given for a file opens it first (`Asks`, `dispatch_asks`): whatever the user
picks, and whatever the programs do that it runs, it makes at most one request then.
-/

namespace AnalyzerClient.CommandLine

open AnalyzerClient.Protocol (Error Message Request)
open ConsoleM (liftExchange)

variable {α β : Type}

/-- The method of the request that a command makes. -/
def ServerCommand.method : ServerCommand → String
  | .runnables _ | .run _ | .test _ | .debug _ => "experimental/runnables"
  | .syntaxTree _ => "webby-analyzer/syntaxTree"
  | .replaceStructurally .. => "experimental/ssr"
  | .packageGraph _ => "webby-analyzer/viewPackageGraph"
  | .matchingBrace _ => "experimental/matchingBrace"
  | .joinLines _ => "experimental/joinLines"
  | .reloadWorkspace => "webby-analyzer/reloadWorkspace"

/-! ## Steps that leave the server alone -/

/-- A step that ends, and leaves the client and its server as they are. -/
def Quiet (step : ConsoleM α) : Prop :=
  ∀ c, ∃ a c', step c = some (a, c') ∧ c'.exchange = c.exchange

theorem console_get_bind_run (next : Console → ConsoleM α) (c : Console) :
    (get >>= next : ConsoleM α) c = next c c := rfl

namespace Quiet

theorem pure (a : α) : Quiet (Pure.pure a) := fun c => ⟨a, c, rfl, rfl⟩

theorem bind {step : ConsoleM α} {next : α → ConsoleM β} (h : Quiet step)
    (hnext : ∀ a, Quiet (next a)) : Quiet (step >>= next) := by
  intro c
  obtain ⟨a, c₁, hstep, hexchange⟩ := h c
  obtain ⟨b, c₂, hrest, hexchange'⟩ := hnext a c₁
  refine ⟨b, c₂, ?_, hexchange'.trans hexchange⟩
  show (step c).bind _ = _
  rw [hstep]
  exact hrest

theorem map (f : α → β) {step : ConsoleM α} (h : Quiet step) : Quiet (f <$> step) := by
  rw [map_eq_pure_bind]
  exact h.bind fun a => pure (f a)

theorem machine : Quiet ConsoleM.machine := fun c => ⟨_, c, rfl, rfl⟩

theorem writeOctets (octets : List UInt8) : Quiet (ConsoleM.writeOctets octets) :=
  fun _ => ⟨_, _, rfl, rfl⟩

theorem writeErrorOctets (octets : List UInt8) : Quiet (ConsoleM.writeErrorOctets octets) :=
  fun _ => ⟨_, _, rfl, rfl⟩

theorem printError (text : String) : Quiet (ConsoleM.printError text) := writeErrorOctets _

theorem readLine : Quiet ConsoleM.readLine := by
  intro c
  rw [ConsoleM.readLine, console_get_bind_run]
  cases Text.Line.next? c.input with
  | none => exact ⟨_, _, rfl, rfl⟩
  | some line => exact ⟨_, _, rfl, rfl⟩

theorem runProgram (spec : ProcessSpec) (input : List UInt8) :
    Quiet (ConsoleM.runProgram spec input) := by
  refine machine.bind fun m => ?_
  cases m.checkStart spec with
  | error e => exact pure _
  | ok _ => exact fun c => ⟨_, _, rfl, rfl⟩

theorem forM {items : List α} {step : α → ConsoleM Unit} (h : ∀ a, Quiet (step a)) :
    Quiet (items.forM step) := by
  induction items with
  | nil => exact pure ()
  | cons a items ih => exact (h a).bind fun _ => ih

theorem liftCommand {step : ConsoleM α} (h : Quiet step) : Quiet (liftM step : CommandM α).run :=
  h.map _

theorem printLine (line : String) : Quiet (CommandM.printLine line).run :=
  (writeOctets _).liftCommand

theorem printPosition (p : Protocol.Position) : Quiet (CommandM.printPosition p).run := by
  rw [CommandM.printPosition]
  cases p.shown with
  | error cause => exact pure _
  | ok text => exact printLine text

end Quiet

/-! ## Requests of a command -/

/-- A run in which the server is asked at most once. It has no result when the client waits for the
reply for ever. -/
inductive Asks (method : String) (x : Exchange) : Option (α × Console) → Prop
  | silent {a : α} {c' : Console} : c'.exchange = x → Asks method x (some (a, c'))
  | refused {a : α} {c' : Console} : x.client.current.closed = true → c'.exchange = x.issue →
      Asks method x (some (a, c'))
  | waits {params : Json} : x.client.current.closed = false →
      ExchangeM.outcome (x.asked method params).client method x.client.nextId = none →
      Asks method x none
  | answered {params : Json} {a : α} {c' : Console} : x.client.current.closed = false →
      c'.exchange = x.asked method params → Asks method x (some (a, c'))

/-- A step that asks the server at most once. -/
def Asking (method : String) (step : ConsoleM α) : Prop :=
  ∀ c config machine n calls, c.exchange.Idle config machine n calls →
    Asks method c.exchange (step c)

variable {method : String}

theorem Asks.same_exchange {x : Exchange} {a : α} {b : β} {c c' : Console}
    (h : Asks method x (some (a, c))) (hc : c'.exchange = c.exchange) :
    Asks method x (some (b, c')) := by
  cases h with
  | silent hx => exact .silent (hc.trans hx)
  | refused hclosed hx => exact .refused hclosed (hc.trans hx)
  | answered hopen hx => exact .answered hopen (hc.trans hx)

theorem Asks.bind {x : Exchange} {run : Option (α × Console)} {next : α → ConsoleM β}
    (h : Asks method x run) (hnext : ∀ a, Quiet (next a)) :
    Asks method x (run.bind fun p => next p.1 p.2) := by
  cases run with
  | none =>
    cases h with
    | waits hopen houtcome => exact .waits hopen houtcome
  | some p =>
    obtain ⟨a, c⟩ := p
    obtain ⟨b, c', hrest, hexchange⟩ := hnext a c
    rw [Option.bind_some, hrest]
    exact h.same_exchange hexchange

namespace Asking

theorem request (r : Request α) : Asking r.method (liftExchange (ExchangeM.request r)) := by
  intro c config machine n calls h
  show Asks r.method c.exchange ((ExchangeM.request r c.exchange).bind _)
  rcases Bool.eq_false_or_eq_true c.exchange.client.current.closed with hclosed | hopen
  · rw [h.request_of_closed hclosed]
    exact .refused hclosed rfl
  · rw [h.request_of_open hopen]
    cases houtcome : ExchangeM.outcome (c.exchange.asked r.method r.params).client r.method n with
    | none =>
      rw [← h.nextId] at houtcome
      exact .waits hopen houtcome
    | some raw => exact .answered hopen rfl

theorem bind {step : ConsoleM α} {next : α → ConsoleM β} (h : Asking method step)
    (hnext : ∀ a, Quiet (next a)) : Asking method (step >>= next) :=
  fun c config machine n calls hidle => (h c config machine n calls hidle).bind hnext

theorem map (f : α → β) {step : ConsoleM α} (h : Asking method step) :
    Asking method (f <$> step) := by
  rw [map_eq_pure_bind]
  exact h.bind fun a => .pure (f a)

end Asking

/-! ## The commands -/

section Launching

variable (shell : Terminal.Shell) (document d : DocumentPosition) (l : Launcher)

end Launching

/-- The call that opens the file at a path on a server. There is one when the file can be read as a
text and the server is for it. -/
def openCallAt (config : Server.Config) (files : FileTree) (path : String) : List Json :=
  match Uri.ofPath? path, files.readText path with
  | some uri, .ok text =>
    if config.handles path then
      [Message.notificationJson Protocol.openMethod
        (Protocol.openedDocument uri config.languageId 1 text)]
    else []
  | _, _ => []

theorem openCallAt_ne_nil_iff {config : Server.Config} {files : FileTree} {path : String} :
    openCallAt config files path ≠ [] ↔ Path.isAbsolute path = true ∧
      (∃ text, files.readText path = .ok text) ∧ config.handles path = true := by
  rw [openCallAt, Uri.ofPath?]
  by_cases habsolute : Path.isAbsolute path = true
  · rw [if_pos habsolute]
    cases files.readText path with
    | error e => simp
    | ok text => simp [habsolute]
  · rw [if_neg habsolute]
    simp [habsolute]

/-- The call that opens a file on a server. -/
def openCall (config : Server.Config) (m : Machine) (file : String) : List Json :=
  openCallAt config m.files (Path.join m.files.directory file)

/-- The call with which a command begins, if any. -/
def ServerCommand.opened (command : ServerCommand) (config : Server.Config) (m : Machine) :
    List Json :=
  match command.file? with
  | none => []
  | some file => openCall config m file

/-- Tells the first server something, one message after the other. -/
def tell (messages : List Json) (x : Exchange) : Exchange := messages.foldl Exchange.told x

variable {x : Exchange} {config : Server.Config} {m : Machine} {n : Int} {calls : List Json}

theorem openDocument_eq (h : x.Idle config m n calls) (uri : Uri) (version : Int) (text : String) :
    ExchangeM.openDocument uri version text x =
      some (.ok (), x.told (Message.notificationJson Protocol.openMethod
        (Protocol.openedDocument uri config.languageId version text))) := by
  rw [ExchangeM.openDocument, ExchangeM.get_bind_run, h.config]
  exact h.notify_eq ..

theorem language_eq_iff (h : config.languageId = Server.languageId) (path : String) :
    ((config.languageOf? path).getD Server.otherLanguage == Server.languageId) =
      config.handles path := by
  rw [Server.Config.languageOf?]
  cases config.handles path with
  | true => simp [h]
  | false => rfl

theorem session_get_bind_run (next : Exchange → SessionM β) (x : Exchange) :
    (get >>= next : SessionM β).run x = (next x).run x := rfl

theorem openFile_eq (h : x.Idle config m n calls)
    (hlanguage : config.languageId = Server.languageId) (file : String) (line column : Nat) :
    ∃ result, (SessionM.openFile file line column).run x =
      some (result, tell (openCall config m file) x) := by
  unfold SessionM.openFile
  rw [session_get_bind_run, openCall, h.machine, h.config]
  generalize Path.join m.files.directory file = path
  dsimp only
  rw [openCallAt]
  cases Uri.ofPath? path with
  | none => exact ⟨_, rfl⟩
  | some uri =>
    cases m.files.readText path with
    | error e => exact ⟨_, rfl⟩
    | ok text =>
      dsimp only
      rw [language_eq_iff hlanguage]
      split
      · refine ⟨.ok ⟨uri, (config.languageOf? path).getD Server.otherLanguage,
          .ofCursor line column⟩, ?_⟩
        show ((ExchangeM.openDocument uri 1 text x).bind _).bind _ = _
        rw [openDocument_eq h]
        rfl
      · exact ⟨_, rfl⟩

/-- A step of the session that ends with a value has this value. -/
theorem eq_of_bind_pure {step : SessionM β} {a b : α} {x' : Exchange}
    (h : (step >>= fun _ => pure a).run x = some (.ok b, x')) : b = a := by
  obtain ⟨⟨result, x₁⟩, -, hend⟩ := Option.bind_eq_some_iff.mp h
  cases result with
  | error f => cases hend
  | ok _ =>
    cases hend
    rfl

/-- What is opened at a cursor has the place of the cursor. -/
theorem document_of_openFile {file : String} {line column : Nat} {document : DocumentPosition}
    {x' : Exchange} (h : (SessionM.openFile file line column).run x = some (.ok document, x')) :
    Uri.ofPath? (Path.join x.machine.files.directory file) = some document.uri ∧
      document.position = .ofCursor line column := by
  unfold SessionM.openFile at h
  rw [session_get_bind_run] at h
  dsimp only at h
  cases huri : Uri.ofPath? (Path.join x.machine.files.directory file) with
  | none =>
    rw [huri] at h
    cases h
  | some uri =>
    rw [huri] at h
    dsimp only at h
    cases htext : x.machine.files.readText (Path.join x.machine.files.directory file) with
    | error e =>
      rw [htext] at h
      cases h
    | ok text =>
      rw [htext] at h
      dsimp only at h
      split at h
      · rw [eq_of_bind_pure h]
        exact ⟨rfl, rfl⟩
      · cases h
        exact ⟨rfl, rfl⟩

theorem opened_cases (command : ServerCommand) (config : Server.Config) (m : Machine) :
    command.opened config m = [] ∨ ∃ params, command.opened config m =
      [Message.notificationJson Protocol.openMethod params] := by
  rw [ServerCommand.opened]
  cases command.file? with
  | none => exact .inl rfl
  | some file =>
    dsimp only [openCall]
    rw [openCallAt]
    split
    · split
      · exact .inr ⟨_, rfl⟩
      · exact .inl rfl
    · exact .inl rfl

theorem open_ne_exit : Protocol.openMethod ≠ Protocol.exitMethod := by decide

/-- What is done behind a step of the session. -/
theorem ofSession_bind_run (step : SessionM α) (rest : α → CommandM β) (c : Console) :
    (CommandM.ofSession step >>= rest).run c = (step.run c.exchange).bind fun (result, x) =>
      (match result with
        | .error f => Pure.pure (.error (.failure f))
        | .ok a => (rest a).run : ConsoleM (Except Abort β)) { c with exchange := x } := by
  show (((step.run c.exchange).bind _).bind _).bind _ = _
  rw [Option.bind_assoc, Option.bind_assoc]
  congr 1
  funext p
  obtain ⟨result, x⟩ := p
  cases result <;> rfl

end AnalyzerClient.CommandLine
