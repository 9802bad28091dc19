import MailboxControl.Proofs.CommandLine.Ending
import MailboxControl.Proofs.Tool

/-! The two ways to an operation, as a tool and as a command. On the same bus they do the same, and
where the tool returns a summary or fails, the command says so and gives the exit code that belongs
to it. -/

namespace MailboxControl

open CommandLine

/-- The line about a summary. Only a successful status goes without its message. -/
def Summary.line (d : Summary) : Event :=
  match d.state with
  | some label => .printed ("Daemon Status: " ++ label)
  | none =>
    if d.operation = "Status" then .complained ("Status: " ++ d.message)
    else .printed (d.operation ++ ": " ++ d.message)

/-- What becomes of a tool call, and the result and the lines of a command for which the same
becomes of it. -/
inductive Matches (op : Operation) :
    Except Failure Summary → Except Failure Number → Trace → Prop where
  | told (d : Summary) (n : Int) (hstatus : d.status = .int n)
      (hstate : d.state.isSome = true ↔ d.operation = "Status" ∧ n = 0) :
      Matches op (.ok d) (.ok (.whole (-n))) [d.line]
  | refused (e : Failure) (n : Number) (hclient : e.isClient = true) (hexit : e.exitCode = .ok n) :
      Matches op (.error e) (.ok n) [.complained (diagnostic op e)]
  | escaped (e : Failure) (hother : e.isClient = false) : Matches op (.error e) (.error e) []

namespace Matches

variable {op : Operation} {tool : Except Failure Summary} {command : Except Failure Number}
  {said : Trace} {d : Summary} {e : Failure}

end Matches

namespace Counterpart

variable {t : Tool} {given : Option Value} {op : Operation} {arg : Value} {bus : Bus}

end Counterpart

end MailboxControl
