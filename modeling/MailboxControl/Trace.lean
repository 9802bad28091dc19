import MailboxControl.Failure

/-! What a run shows to the outside, and actions that show it. An action turns a state into a
result, the state after it and the events in their order; a failure ends it and keeps both. -/

namespace MailboxControl

inductive Level where
  | debug
  | info
  | warning
deriving DecidableEq, Repr

def Level.name : Level → String
  | .debug => "DEBUG"
  | .info => "INFO"
  | .warning => "WARNING"

def Level.rank : Level → Nat
  | .debug => 0
  | .info => 1
  | .warning => 2

/-- The part of the client that a log record comes from. -/
inductive Logger where
  | exchange
  | connection
  | commandLine
  | tools
deriving DecidableEq, Repr

def Logger.name : Logger → String
  | .exchange => "mboxctl.rpc"
  | .connection => "mboxctl.transport.dbus_connection"
  | .commandLine => "mboxctl.cli"
  | .tools => "mboxctl.server"

structure LogRecord where
  level : Level
  logger : Logger
  message : String
deriving DecidableEq, Repr

/-- A method call as it is handed to the bus. -/
structure BusCall where
  destination : String
  path : String
  interface : Option String
  method : String
  signature : String
  command : Value
  args : Bytes

inductive Event where
  /-- an attempt to open the bus, and whether it succeeded -/
  | opened (bus : BusAddress) (up : Bool)
  | closed
  | sent (call : BusCall)
  /-- a request handed to a scripted transport -/
  | delivered (command : UInt8) (args : Bytes)
  | logged (record : LogRecord)
  | printed (line : String)
  | complained (line : String)

abbrev Trace := List Event

structure Outcome (σ α : Type) where
  result : Except Failure α
  state : σ
  trace : Trace

def Action (σ α : Type) := σ → Outcome σ α

namespace Action

variable {σ α β : Type}

protected def pure (a : α) : Action σ α := fun s => ⟨.ok a, s, []⟩

protected def bind (x : Action σ α) (f : α → Action σ β) : Action σ β := fun s =>
  match x s with
  | ⟨.ok a, s', t⟩ =>
    let next := f a s'
    ⟨next.result, next.state, t ++ next.trace⟩
  | ⟨.error e, s', t⟩ => ⟨.error e, s', t⟩

instance : Monad (Action σ) where
  pure := Action.pure
  bind := Action.bind

def fail (e : Failure) : Action σ α := fun s => ⟨.error e, s, []⟩

def lift (r : Except Failure α) : Action σ α := fun s => ⟨r, s, []⟩

def emit (e : Event) : Action σ Unit := fun s => ⟨.ok (), s, [e]⟩

def log (level : Level) (logger : Logger) (message : String) : Action σ Unit :=
  emit (.logged ⟨level, logger, message⟩)

/-- Runs the handler on a failure of the action. -/
def rescue (x : Action σ α) (handler : Failure → Action σ α) : Action σ α := fun s =>
  match x s with
  | ⟨.ok a, s', t⟩ => ⟨.ok a, s', t⟩
  | ⟨.error e, s', t⟩ =>
    let next := handler e s'
    ⟨next.result, next.state, t ++ next.trace⟩

/-- Puts another failure in place of the action's own and leaves the rest as it is. -/
def mapFailure (x : Action σ α) (f : Failure → Failure) : Action σ α := fun s =>
  match x s with
  | ⟨.ok a, s', t⟩ => ⟨.ok a, s', t⟩
  | ⟨.error e, s', t⟩ => ⟨.error (f e), s', t⟩

/-- Runs the last action whatever the first one ends with. A failure of the last one takes the place of
the first result, which stays otherwise. -/
def followedBy (x : Action σ α) (last : Action σ Unit) : Action σ α := fun s =>
  let first := x s
  let next := last first.state
  let result :=
    match next.result with
    | .ok () => first.result
    | .error e => .error e
  ⟨result, next.state, first.trace ++ next.trace⟩

end Action

namespace Trace

/-- The events on the bus. -/
def busEvents (t : Trace) : Trace :=
  t.filter fun
    | .opened _ _ | .closed | .sent _ => true
    | _ => false

def deliveries (t : Trace) : List (UInt8 × Bytes) :=
  t.filterMap fun
    | .delivered command args => some (command, args)
    | _ => none

def records (t : Trace) : List LogRecord :=
  t.filterMap fun
    | .logged r => some r
    | _ => none

end Trace

end MailboxControl
