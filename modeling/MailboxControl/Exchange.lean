import MailboxControl.Trace
import MailboxControl.Request

/-! One request and its reply. The request is checked and logged before the transport is used, the
transport is used once, and the reply is checked and logged before its length is looked at. A transport
may play a script, whose entries the requests take in turn. -/

namespace MailboxControl

/-- A way to hand over one request and to wait for whatever comes back. -/
abbrev Transport (σ : Type) := UInt8 → Bytes → Action σ Value

namespace Exchange

variable {σ : Type}

/-- The number of reply bytes that a caller wants must be a number and not negative. -/
def checkExpected (expected : Value) : Except Failure Unit :=
  match expected.number? with
  | none => .error (.fault (.notComparable expected.kind))
  | some n => if n.isNegative then .error (.fault (.negativeLength expected)) else .ok ()

def arrow : Direction → String
  | .request => "-> "
  | .reply => "<- "

/-- A message that has no written form leaves no line. -/
def logMessage (direction : Direction) (m : Message) : Action σ Unit :=
  match m.describe direction with
  | .ok text => Action.log .debug .exchange (arrow direction ++ text)
  | .error _ => pure ()

/-- The client's own errors pass; anything else becomes a failure of this request. -/
def wrap (command : UInt8) (e : Failure) : Failure :=
  if e.isClient then e else .wrapped (.requesting command) e

/-- Hands over the request and takes the reply apart. -/
def deliver (transport : Transport σ) (p : Packet) : Action σ (Value × Value) :=
  Action.mapFailure
    (do
      let reply ← transport p.tag p.args
      Action.lift (reply.toPair.mapError .fault))
    (wrap p.tag)

def decode (status args : Value) : Except Failure Packet :=
  (Message.decodeReply status args).mapError fun
    | .encoding e => .protocol (.malformedReply e)
    | e => e

/-- Drops the bytes after the expected ones. -/
def trim (expected : Value) (reply : Packet) : Except Failure Packet :=
  if expected.number?.any (·.isAbove reply.args.length) then
    .error (.protocol (.shortReply expected reply.args.length))
  else
    match expected.integer? with
    | some n => .ok ⟨reply.tag, reply.args.take n.toNat⟩
    | none => .error (.fault .notIndex)

end Exchange

open Exchange in
/-- Sends a request and returns its reply with exactly the expected argument bytes. -/
def exchange {σ : Type} (transport : Transport σ) (request : Message)
    (expected : Value := .int 0) : Action σ Packet := do
  Action.lift (checkExpected expected)
  let packet ← Action.lift (request.encode .request)
  logMessage .request request
  let (status, args) ← deliver transport packet
  let reply ← Action.lift (decode status args)
  logMessage .reply reply.toMessage
  Action.lift (trim expected reply)

/-- What a scripted transport does with one request. -/
inductive Delivery where
  | returned (reply : Value)
  | raised (e : Failure)

abbrev Script := List Delivery

/-- A request is shown before its entry takes effect. -/
def Script.transport : Transport Script := fun command args script =>
  match script with
  | [] => ⟨.error .exhausted, [], [.delivered command args]⟩
  | .returned reply :: rest => ⟨.ok reply, rest, [.delivered command args]⟩
  | .raised e :: rest => ⟨.error e, rest, [.delivered command args]⟩

end MailboxControl
