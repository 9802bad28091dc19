import MailboxControl.Proofs.CommandLine.Report

/-! The bus as a command line uses it. A command line that is not understood, or that asks for
resuming without a flag, leaves it alone; any other one opens it once and, if that succeeds, sends one
call and closes it. -/

namespace MailboxControl.CommandLine

open Operation

def Invocation.busName (i : Invocation) : BusAddress :=
  .text (if i.session then "SESSION" else "SYSTEM")

def Invocation.bytes (i : Invocation) : Bytes :=
  if i.operation = .resume then (if i.operands = some ["1"] then [1] else [0]) else []

def Invocation.call (i : Invocation) : BusCall :=
  ⟨"org.openbmc.mboxd", "/org/openbmc/mboxd", some "org.openbmc.mboxd", "cmd", "yay",
    .int i.operation.command.number, i.bytes⟩

namespace Invocation

theorem endpoint_bus (i : Invocation) : i.endpoint.bus = i.busName := by
  unfold endpoint busName
  cases i.session <;> rfl

end Invocation

theorem run_of_invocation {words : List String} {i : Invocation} (h : parse words = .ok i)
    (bus : Bus) : run words bus = i.run bus := by
  simp only [run, h]

end MailboxControl.CommandLine
