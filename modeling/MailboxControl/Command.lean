/-! The commands of the mailbox daemon, with the argument bytes each one sends and the reply bytes
the client reads back. -/

namespace MailboxControl

inductive Command where
  | ping
  | status
  | reset
  | suspend
  | resume
  | modified
deriving DecidableEq, Repr

/-- Whether flash changed while the daemon was suspended. -/
inductive ResumeFlag where
  | notModified
  | flashModified
deriving DecidableEq, Repr

namespace Command

def all : List Command := [ping, status, reset, suspend, resume, modified]

def number : Command → Nat
  | ping => 0
  | status => 1
  | reset => 2
  | suspend => 3
  | resume => 4
  | modified => 5

def name : Command → String
  | ping => "PING"
  | status => "STATUS"
  | reset => "RESET"
  | suspend => "SUSPEND"
  | resume => "RESUME"
  | modified => "MODIFIED"

/-- The argument bytes of a request. -/
def argsLength : Command → Nat
  | resume => 1
  | _ => 0

/-- The reply bytes that are read; further ones are dropped. -/
def replyLength : Command → Nat
  | status => 1
  | _ => 0

theorem mem_all (c : Command) : c ∈ all := by cases c <;> decide

theorem number_lt (c : Command) : c.number < 256 := by cases c <;> decide

theorem number_injective {c d : Command} (h : c.number = d.number) : c = d := by
  cases c <;> cases d <;> first | rfl | cases h

end Command

namespace ResumeFlag

def all : List ResumeFlag := [notModified, flashModified]

def number : ResumeFlag → Nat
  | notModified => 0
  | flashModified => 1

def name : ResumeFlag → String
  | notModified => "NOT_MODIFIED"
  | flashModified => "FLASH_MODIFIED"

def byte (f : ResumeFlag) : UInt8 := UInt8.ofNat f.number

end ResumeFlag

end MailboxControl
