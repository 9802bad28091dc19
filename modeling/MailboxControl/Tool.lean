import MailboxControl.Connection
import MailboxControl.Operation

/-! The operations as tools for other programs. Every call opens a connection of its own to the
daemon on the system bus and closes it before it returns a summary. -/

namespace MailboxControl

inductive Tool where
  | ping
  | getStatus
  | reset
  | suspend
  | resume
  | flashModified
deriving DecidableEq, Repr

/-- A named argument with the type that callers are told. -/
structure Parameter where
  name : String
  type : String
  required : Bool := true
deriving DecidableEq, Repr

namespace Tool

def all : List Tool := [ping, getStatus, reset, suspend, resume, flashModified]

def name : Tool → String
  | ping => "ping"
  | getStatus => "get_status"
  | reset => "reset"
  | suspend => "suspend"
  | resume => "resume"
  | flashModified => "flash_modified"

def operation : Tool → Operation
  | ping => .ping
  | getStatus => .status
  | reset => .reset
  | suspend => .suspend
  | resume => .resume
  | flashModified => .flashModified

def description : Tool → String
  | ping => "Check that the mailbox daemon is running and answering requests."
  | getStatus =>
    "Report whether the daemon is Active or Suspended.\n\n" ++
    "While suspended the daemon does not touch flash, so the host may."
  | reset => "Hard reset the daemon state and point the LPC window back to flash."
  | suspend => "Suspend the daemon to inhibit its flash accesses."
  | resume =>
    "Resume the daemon after a suspend.\n\nArgs:\n" ++
    "    flash_modified: True if flash was written while the daemon was\n" ++
    "        suspended, so it must drop its cached contents."
  | flashModified => "Tell the daemon that flash contents changed and its cache is stale."

/-- The argument of resuming. -/
def modifiedParameter : Parameter := ⟨"flash_modified", "boolean", true⟩

def parameters : Tool → List Parameter
  | resume => [modifiedParameter]
  | _ => []

/-- The argument has to be given exactly if there is a parameter for it. -/
def checkArgument (t : Tool) (arg : Option Value) : Except Fault Unit :=
  match t.parameters, arg with
  | [], some _ => .error (.unknownArgument t.name modifiedParameter.name)
  | p :: _, none => .error (.missingArgument t.name p.name)
  | _, _ => .ok ()

def call (t : Tool) (arg : Option Value) : Action Bus Summary := do
  Action.lift ((t.checkArgument arg).mapError .fault)
  let verdict ← Link.onBus .system (Link.within (t.operation.perform Link.transport arg))
  Action.log .info .tools (verdict.operation ++ ": " ++ verdict.message)
  Action.lift (verdict.summary.mapError .fault)

/-- The calls of a client, one after another on one bus. -/
def callAll : List (Tool × Option Value) → Bus → List (Outcome Bus Summary)
  | [], _ => []
  | (t, arg) :: rest, bus =>
    let outcome := t.call arg bus
    outcome :: callAll rest outcome.state

end Tool

end MailboxControl
