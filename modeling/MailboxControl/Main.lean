import MailboxControl.CommandLine.Run

/-! The program: it reads its command line, carries it out and ends with the exit code. No bus is
linked in, so that every attempt to connect is reported as a failure. -/

namespace MailboxControl.CommandLine

/-- The status that the system sees, which keeps the low eight bits of an exit code. -/
def Exit.status : Exit → UInt32
  | .code (.whole n) => UInt32.ofNat (n % 256).toNat
  | .stopped n => UInt32.ofNat (n % 256)
  | _ => 1

end MailboxControl.CommandLine

open MailboxControl.CommandLine in
def main (args : List String) : IO UInt32 := do
  let transcript := run args .unreachable
  IO.print transcript.output
  IO.eprint transcript.errors
  if let .failed e := transcript.exit then IO.eprintln e.message
  pure transcript.exit.status
