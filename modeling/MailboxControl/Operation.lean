import MailboxControl.Exchange
import MailboxControl.Verdict

/-! The administrative operations. Each builds its request, makes one exchange and returns a
verdict. -/

namespace MailboxControl

inductive Operation where
  | ping
  | status
  | reset
  | pointToFlash
  | suspend
  | resume
  | flashModified
deriving DecidableEq, Repr

namespace Operation

def all : List Operation := [ping, status, reset, pointToFlash, suspend, resume, flashModified]

/-- The name under which an operation is called. -/
def name : Operation → String
  | ping => "ping"
  | status => "status"
  | reset => "reset"
  | pointToFlash => "point_to_flash"
  | suspend => "suspend"
  | resume => "resume"
  | flashModified => "flash_modified"

/-- The name that verdicts carry. Pointing back to flash is reported as the reset that it is. -/
def title : Operation → String
  | ping => "Ping"
  | status => "Status"
  | reset => "Reset"
  | pointToFlash => "Reset"
  | suspend => "Suspend"
  | resume => "Resume"
  | flashModified => "Flash Modified"

def command : Operation → Command
  | ping => .ping
  | status => .status
  | reset => .reset
  | pointToFlash => .reset
  | suspend => .suspend
  | resume => .resume
  | flashModified => .modified

/-- The request of an operation. Only resuming takes an argument, and needs it. -/
def request (op : Operation) (arg : Option Value) : Except Failure Message :=
  match op, arg with
  | resume, some v =>
    match ResumeFlag.parse v with
    | .ok flag => .ok (Message.ofResume flag)
    | .error e => .error e
  | resume, none => .error (.fault (.missingArgument op.name "arg"))
  | _, none => .ok (Message.ofCommand op.command)
  | _, some _ => .error (.fault (.surplusArgument op.name 1 2))

/-- The verdict on a reply. The access state is read only from a successful status reply. -/
def conclude (op : Operation) (reply : Packet) : Except Failure Verdict :=
  let verdict : Verdict := ⟨op.title, .int reply.tag.toNat, .null⟩
  match op with
  | status =>
    if verdict.ok then
      match AccessState.parse (.bytes reply.args) with
      | .ok state => .ok { verdict with state := .code (.state state) }
      | .error e => .error e
    else .ok verdict
  | _ => .ok verdict

def perform {σ : Type} (transport : Transport σ) (op : Operation) (arg : Option Value := none) :
    Action σ Verdict := do
  let request ← Action.lift (op.request arg)
  let reply ← exchange transport request (.int op.command.replyLength)
  Action.lift (op.conclude reply)

end Operation

end MailboxControl
