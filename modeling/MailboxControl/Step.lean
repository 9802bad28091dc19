import MailboxControl.Connection
import MailboxControl.Operation

/-! Sequences of uses of one connection. Blocks nest: a block opens the connection, runs its steps,
each of which keeps its own failure, and closes the connection whatever happened in it. -/

namespace MailboxControl

/-- One use of a transport. -/
inductive Use where
  | exchange (command args expected : Value)
  | perform (op : Operation) (arg : Option Value)

/-- What a use returns. -/
inductive Yield where
  | reply (p : Packet)
  | verdict (v : Verdict)

def Use.run {σ : Type} (transport : Transport σ) : Use → Action σ Yield
  | .exchange command args expected => do
    let p ← MailboxControl.exchange transport ⟨command, args⟩ expected
    pure (.reply p)
  | .perform op arg => do
    let v ← op.perform transport arg
    pure (.verdict v)

/-- The uses of a scripted transport, one after another. -/
def Script.run : List Use → Script → List (Outcome Script Yield)
  | [], _ => []
  | u :: us, script =>
    let outcome := u.run Script.transport script
    outcome :: Script.run us outcome.state

/-- One step on a connection that is not a block. -/
inductive Move where
  | endpoint
  | connect
  | disconnect
  | enter
  | leave
  | call (command args : Value)
  | use (u : Use)

/-- What a move returns. -/
inductive Gain where
  | endpoint (e : Endpoint)
  | nothing
  | itself
  | fields (status : Value) (args : Bytes)
  | yield (y : Yield)

def Move.run : Move → Action Link Gain
  | .endpoint => fun link => ⟨.ok (.endpoint link.endpoint), link, []⟩
  | .connect => do
    let e ← Link.connect
    pure (.endpoint e)
  | .disconnect => do
    Link.disconnect
    pure .nothing
  | .enter => do
    let _ ← Link.connect
    pure .itself
  | .leave => do
    Link.disconnect
    pure .nothing
  | .call command args => do
    let (status, replyArgs) ← Link.call command args
    pure (.fields status replyArgs)
  | .use u => do
    let y ← u.run Link.transport
    pure (.yield y)

inductive Step where
  | move (m : Move)
  | block (steps : List Step) (raising : Option Failure)

/-- The account of a step: how it ended, whether the connection is up after it, and what it showed
since the account before. -/
inductive Account where
  | move (result : Except Failure Gain) (connected : Bool) (trace : Trace)
  | block (exit : Option Failure) (inner : List Account) (connected : Bool) (trace : Trace)

mutual

/-- Runs a step. What was shown before it and not yet told goes to its first account. A block ends with
what is raised in it, unless its closing fails. -/
def Step.run (pending : Trace) : Step → Link → Account × Link
  | .move m, link =>
    let outcome := m.run link
    (.move outcome.result outcome.state.connected (pending ++ outcome.trace), outcome.state)
  | .block steps raising, link =>
    let opening := Link.connect link
    match opening.result with
    | .error e =>
      (.block (some e) [] opening.state.connected (pending ++ opening.trace), opening.state)
    | .ok _ =>
      let (inner, link, untold) := Step.runAll (pending ++ opening.trace) steps opening.state
      let closing := Link.disconnect link
      let exit :=
        match closing.result with
        | .ok () => raising
        | .error e => some e
      (.block exit inner closing.state.connected (untold ++ closing.trace), closing.state)

def Step.runAll (pending : Trace) : List Step → Link → List Account × Link × Trace
  | [], link => ([], link, pending)
  | s :: rest, link =>
    let (account, link) := Step.run pending s link
    let (accounts, link, untold) := Step.runAll [] rest link
    (account :: accounts, link, untold)

end

end MailboxControl
