import MailboxControl.Trace

/-! A message bus as the list of what it will do: which attempts to open and to close it fail, and
what each sent call comes back with. -/

namespace MailboxControl

/-- What a sent call comes back with. -/
inductive BusReply where
  /-- a method return with its body -/
  | returned (body : List Value)
  /-- an error reply by the bus, with its name -/
  | refused (name : Option String)
  | raised (e : Failure)

/-- The items not yet used, in order. An open or a close without an item succeeds. -/
structure Bus where
  opens : List (Option Failure) := []
  closes : List (Option Failure) := []
  replies : List BusReply := []

namespace Bus

def nextOpen (b : Bus) : Option Failure × Bus :=
  (b.opens.head?.join, { b with opens := b.opens.tail })

def nextClose (b : Bus) : Option Failure × Bus :=
  (b.closes.head?.join, { b with closes := b.closes.tail })

/-- The body of the reply to the next call. -/
def nextReply (b : Bus) : Except Failure (List Value) × Bus :=
  let answer : Except Failure (List Value) :=
    match b.replies.head? with
    | none => .error .exhausted
    | some (.returned body) => .ok body
    | some (.refused name) => .error (.busError name)
    | some (.raised e) => .error e
  (answer, { b with replies := b.replies.tail })

/-- A bus that cannot be reached. -/
def unreachable : Bus :=
  { opens := [some (.system .fileNotFound (some (.int 2)) "No such file or directory")] }

end Bus

end MailboxControl
