import MailboxControl.CommandLine.Grammar
import MailboxControl.Connection

/-! Carrying out a command line: one operation over one connection, a line about how it went, and
the exit code. An argument for resuming is read before the bus is touched. -/

namespace MailboxControl

namespace Operation

/-- The word that asks for an operation. -/
def keyword : Operation → String
  | pointToFlash => "point-to-flash"
  | flashModified => "flash-modified"
  | op => op.name

/-- The words by which diagnostics call an operation. -/
def label : Operation → String
  | pointToFlash => "reset"
  | flashModified => "flash modified"
  | op => op.name

/-- The operation that a keyword asks for. -/
def ofKeyword (keyword : Value) : Except Fault Operation :=
  match all.find? (fun op => keyword.same (.text op.keyword)) with
  | some op => .ok op
  | none => .error (if keyword.isKey then .noKey keyword else .unhashable keyword.kind)

end Operation

namespace CommandLine

variable {σ : Type}

/-- Says how an operation went. Only a successful status goes without its phrase. -/
def report (v : Verdict) : Action σ Number := do
  if v.operation = Operation.status.title then
    if v.ok then
      let label ← Action.lift (v.state.label.mapError .fault)
      Action.emit (.printed ("Daemon Status: " ++ label))
      pure (.whole 0)
    else
      Action.emit (.complained ("Status: " ++ v.message))
      Action.lift (v.exitCode.mapError .fault)
  else
    Action.emit (.printed (v.operation ++ ": " ++ v.message))
    Action.lift (v.exitCode.mapError .fault)

/-- Says why an operation could not be carried out. -/
def giveUp (op : Operation) (e : Failure) : Action σ Number := do
  Action.log .debug .commandLine (op.label ++ " command failed")
  Action.emit (.complained ("Failed to send " ++ op.label ++ " command: " ++ e.message))
  Action.lift (e.exitCode.mapError .fault)

/-- What an operation takes from the operator: a flag for resuming, otherwise nothing. -/
def argument (op : Operation) (arg : Value) : Except Failure (Option Value) :=
  match op with
  | .resume => (ResumeFlag.parse arg).map (fun flag => some (.code (.flag flag)))
  | _ => .ok none

/-- One operation over a connection of its own. -/
def attempt (op : Operation) (arg : Value) : Action Link Verdict := do
  let extra ← Action.lift (argument op arg)
  Link.within (op.perform Link.transport extra)

/-- Carries out an operation. The client's own errors end in an exit code, others pass. -/
def carryOut (op : Operation) (arg : Value) : Action Link Number := do
  let outcome ← Action.rescue (Except.ok <$> attempt op arg) fun e =>
    if e.isClient then pure (.error e) else Action.fail e
  match outcome with
  | .ok v => report v
  | .error e => giveUp op e

/-- Carries out the operation that a keyword asks for. -/
def runCommand (keyword arg : Value) : Action Link Number := do
  let op ← Action.lift ((Operation.ofKeyword keyword).mapError .fault)
  carryOut op arg

end CommandLine

namespace Trace

/-- The text on standard output. -/
def output (t : Trace) : String :=
  String.join (t.map fun
    | .printed line => line ++ "\n"
    | _ => "")

/-- The text on standard error, with the log records that are shown. -/
def errors (shown : LogRecord → Bool) (t : Trace) : String :=
  String.join (t.map fun
    | .complained line => line ++ "\n"
    | .logged r =>
      if shown r then r.level.name ++ ":" ++ r.logger.name ++ ":" ++ r.message ++ "\n" else ""
    | _ => "")

end Trace

namespace CommandLine

/-- How the process ends. -/
inductive Exit where
  | code (n : Number)
  /-- the reading of the command line ends it -/
  | stopped (n : Nat)
  | failed (e : Failure)

/-- Everything that a run shows. -/
structure Transcript where
  exit : Exit
  output : String := ""
  errors : String := ""
  events : Trace := []

def Stop.transcript : Stop → Transcript
  | help => { exit := .stopped 0, output := helpText }
  | version => { exit := .stopped 0, output := versionText ++ "\n" }
  | misuse e =>
    { exit := .stopped 2, errors := usageText ++ "mboxctl: error: " ++ e.message ++ "\n" }

namespace Invocation

def endpoint (i : Invocation) : Endpoint := if i.session then .session else .system

/-- The lowest level of the log records that are shown. -/
def threshold (i : Invocation) : Level := if i.verbose then .debug else .warning

/-- The word given to resuming. Dropped words leave an empty list. -/
def argument (i : Invocation) : Value :=
  match i.operands with
  | some [word] => .text word
  | some words => .list (words.map .text)
  | none => .null

def run (i : Invocation) (bus : Bus) : Transcript :=
  let outcome := Link.onBus i.endpoint (carryOut i.operation i.argument) bus
  { exit :=
      match outcome.result with
      | .ok n => .code n
      | .error e => .failed e
    output := outcome.trace.output
    errors := outcome.trace.errors (fun r => i.threshold.rank ≤ r.level.rank)
    events := outcome.trace.busEvents }

end Invocation

/-- Reads a command line and carries it out. -/
def run (words : List String) (bus : Bus) : Transcript :=
  match parse words with
  | .error stop => stop.transcript
  | .ok invocation => invocation.run bus

end CommandLine

end MailboxControl
