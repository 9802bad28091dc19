import MailboxControl.Proofs.CommandLine.Report

/-! What an operator sees of one command over a new connection to the daemon: an exit code, and one
line on one of the two outputs. Only a successful reply that carries what was asked for gives zero. -/

namespace MailboxControl

namespace Trace

theorem said_cons (e : Event) (t : Trace) :
    said (e :: t) = if e.isSaid then e :: said t else said t := List.filter_cons

theorem output_cons (e : Event) (t : Trace) : output (e :: t) = output [e] ++ output t := by
  simp [output, String.join_cons]

theorem errors_cons (shown : LogRecord → Bool) (e : Event) (t : Trace) :
    errors shown (e :: t) = errors shown [e] ++ errors shown t := by
  simp [errors, String.join_cons]

theorem output_said (t : Trace) : t.said.output = t.output := by
  induction t with
  | nil => rfl
  | cons e t ih =>
    rw [said_cons, output_cons e t]
    split
    · rw [output_cons, ih]
    · next h => cases e <;> simp_all [output, Event.isSaid, String.join_cons]

/-- Without log records, what is said is all that the error output shows. -/
theorem errors_said (t : Trace) :
    t.said.errors (fun _ => false) = t.errors (fun _ => false) := by
  induction t with
  | nil => rfl
  | cons e t ih =>
    rw [said_cons, errors_cons _ e t]
    split
    · rw [errors_cons, ih]
    · next h => cases e <;> simp_all [errors, Event.isSaid, String.join_cons]

end Trace

/-- The exit code of a command and the text on its two outputs, log records aside. -/
structure View where
  exit : Except Failure Number
  output : String
  errors : String

namespace View

def told (code : Int) (text : String) : View := ⟨.ok (.whole code), text ++ "\n", ""⟩

def complained (code : Int) (text : String) : View := ⟨.ok (.whole code), "", text ++ "\n"⟩

end View

def Outcome.view (out : Outcome Link Number) : View :=
  ⟨out.result, out.trace.output, out.trace.errors (fun _ => false)⟩

namespace CommandLine

open Exchange Operation Link

section Daemon

variable {op : Operation} {arg : Value} {bus : Bus} {extra : Option Value}

end Daemon

namespace Tells

variable {op : Operation} {bus : Bus} {view : View}

end Tells

end CommandLine

end MailboxControl
