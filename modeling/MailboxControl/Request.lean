import MailboxControl.Message

/-! Requests that match the shape of their command, and the two readings of a resume argument: the
strict one for operators and the numeric one for flags already chosen. -/

namespace MailboxControl

/-- The word by which the request of a command is asked for. -/
def Command.word : Command → String
  | .ping => "ping"
  | .status => "status"
  | .reset => "reset"
  | .suspend => "suspend"
  | .resume => "resume"
  | .modified => "flash_modified"

namespace Message

/-- A request for any value that equals a command number; the value itself stays its tag. -/
def build (command args : Value) : Except Failure Message :=
  match command.toCommand with
  | .error f => .error (.fault f)
  | .ok c =>
    match args.length with
    | .error f => .error (.fault f)
    | .ok n =>
      if n = c.argsLength then
        match args.toBytes with
        | .error f => .error (.fault f)
        | .ok bs => .ok ⟨command, .bytes bs⟩
      else
        match command.nameOf with
        | .error f => .error (.fault f)
        | .ok name => .error (.encoding (.wrongArgsLength name c.argsLength n))

def ofCommand (c : Command) : Message := ⟨.code (.command c), .bytes []⟩

def ofResume (flag : ResumeFlag) : Message := ⟨.code (.command .resume), .bytes [flag.byte]⟩

/-- A resume request for any value that equals a flag number. -/
def buildResume (flag : Value) : Except Failure Message :=
  match flag.toResumeFlag with
  | .error f => .error (.fault f)
  | .ok flag => .ok (ofResume flag)

/-- The request of a command with what it is given. Only resuming takes a flag, and needs it. -/
def make (c : Command) (flag : Option Value) : Except Failure Message :=
  match c, flag with
  | .resume, some v => buildResume v
  | .resume, none => .error (.fault (.missingArgument ("build_" ++ c.word) "flag"))
  | c, none => .ok (ofCommand c)
  | c, some _ => .error (.fault (.surplusArgument ("build_" ++ c.word) 0 1))

theorem build_ofCommand {c : Command} (h : c.argsLength = 0) :
    build (.code (.command c)) (.bytes []) = .ok (ofCommand c) := by
  cases c <;> first | rfl | cases h

theorem build_ofResume (flag : ResumeFlag) :
    build (.code (.command .resume)) (.bytes [flag.byte]) = .ok (ofResume flag) := by
  cases flag <;> rfl

end Message

/-- The bytes of a reply that are read for a command. -/
def replyLength (command : Value) : Except Fault Nat :=
  command.toCommand.map Command.replyLength

/-- Reads what an operator gives: the texts `0` and `1`, a yes or no, or a flag. Numbers are
refused. -/
def ResumeFlag.parse (arg : Value) : Except Failure ResumeFlag :=
  match arg with
  | .code (.flag f) => .ok f
  | .bool b => .ok (if b then .flashModified else .notModified)
  | .text s =>
    if s = "1" then .ok .flashModified
    else if s = "0" then .ok .notModified
    else .error (.validation (.resumeArgument arg))
  | _ => .error (.validation (.resumeArgument arg))

/-- Zero is active; everything else counts as suspended. -/
def AccessState.parse (args : Value) : Except Failure AccessState :=
  match args.items? with
  | none => .error (.fault (.noLength args.kind))
  | some [] => .error (.protocol .noStateByte)
  | some (first :: _) => .ok (if first.same (.int 0) then .active else .suspended)

end MailboxControl
