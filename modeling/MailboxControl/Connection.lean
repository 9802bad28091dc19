import MailboxControl.Bus
import MailboxControl.Exchange

/-! The connection to the daemon over a bus. Opening an open connection and closing a closed one do
nothing, a close that fails still disconnects, and a scoped use closes on every way out. -/

namespace MailboxControl

/-- Where requests are delivered. -/
structure Endpoint where
  bus : BusAddress
  /-- the bus name, or why a call without one is refused -/
  destination : Except Fault String
  objectPath : String
  interface : Option String

namespace Endpoint

def daemonName : String := "org.openbmc.mboxd"

def daemonPath : String := "/org/openbmc/mboxd"

def method : String := "cmd"

/-- A byte and an array of bytes, in both directions. -/
def signature : String := "yay"

/-- The daemon on a bus. -/
def daemonOn (bus : BusAddress) : Endpoint := ⟨bus, .ok daemonName, daemonPath, some daemonName⟩

/-- The daemon on the system bus. -/
def system : Endpoint := daemonOn (.text "SYSTEM")

/-- The daemon on the session bus. -/
def session : Endpoint := daemonOn (.text "SESSION")

def busName (e : Endpoint) : Option String := e.destination.toOption

/-- A bus, in capitals. -/
def checkBus : Value → Except Fault BusAddress
  | .text s => .ok (BusAddress.text s).upper
  | .bytes bs => .ok (BusAddress.bytes bs).upper
  | v => .error (.noFeature v.kind "upper")

/-- An endpoint described by unvalidated data, as far as the bus library takes it. -/
def ofValues (bus busName objectPath interface : Value) (library : BusLibrary := .standard) :
    Except Fault Endpoint :=
  match checkBus bus with
  | .error f => .error f
  | .ok bus =>
    match library.address objectPath busName interface with
    | .error f => .error f
    | .ok parts =>
      .ok ⟨bus, parts.busName.elim (.error library.unnamed) .ok, parts.objectPath,
        parts.interfaceName⟩

end Endpoint

/-- A connection together with the bus behind it. -/
structure Link where
  endpoint : Endpoint
  connected : Bool := false
  bus : Bus

namespace Link

/-- The call as the endpoint addresses it. A call needs a destination. -/
def address (endpoint : Endpoint) (command : Value) (args : Bytes) : Except Failure BusCall :=
  match endpoint.destination with
  | .error f => .error (.fault f)
  | .ok name =>
    .ok ⟨name, endpoint.objectPath, endpoint.interface, Endpoint.method, Endpoint.signature,
      command, args⟩

def connect : Action Link Endpoint := fun link =>
  if link.connected then ⟨.ok link.endpoint, link, []⟩
  else
    let name := link.endpoint.bus
    let (problem, bus) := link.bus.nextOpen
    match problem with
    | some e =>
      ⟨.error (.wrapped (.connecting name) e), { link with bus := bus },
        [.opened name false]⟩
    | none =>
      ⟨.ok link.endpoint, { link with bus := bus, connected := true },
        [.opened name true,
          .logged ⟨.info, .connection, "Connected to " ++ name.shown ++ " bus"⟩]⟩

def disconnect : Action Link Unit := fun link =>
  if link.connected then
    let (problem, bus) := link.bus.nextClose
    let warning : Trace :=
      match problem with
      | some e => [.logged ⟨.warning, .connection, "Error closing bus connection: " ++ e.message⟩]
      | none => []
    ⟨.ok (), { link with bus := bus, connected := false },
      .closed :: warning ++ [.logged ⟨.info, .connection, "Disconnected"⟩]⟩
  else ⟨.ok (), link, []⟩

/-- Failures of the bus and of the operating system belong to the posting of this call. -/
def wrapPost (e : Failure) : Failure :=
  match e with
  | .busError _ => .wrapped .posting e
  | e => if e.isSystem || e.isValue then .wrapped .posting e else e

/-- Sends one call and takes the two fields out of its reply. -/
def post (call : BusCall) : Action Link (Value × Value) := fun link =>
  let (answer, bus) := link.bus.nextReply
  let fields : Except Failure (Value × Value) :=
    match answer with
    | .ok body => (Value.pairOfItems body).mapError .fault
    | .error e => .error e
  ⟨fields.mapError wrapPost, { link with bus := bus }, [.sent call]⟩

/-- Calls the daemon's method and returns the status and the argument bytes of the reply. -/
def call (command args : Value) : Action Link (Value × Bytes) := fun link =>
  if link.connected then
    let posting : Action Link (Value × Bytes) := do
      let bytes ← Action.lift (args.toBytes.mapError .fault)
      let request ← Action.lift (address link.endpoint command bytes)
      let (status, replyArgs) ← post request
      let replyBytes ← Action.lift (replyArgs.toBytes.mapError .fault)
      pure (status, replyBytes)
    posting link
  else ⟨.error .unconnected, link, []⟩

/-- The connection as a transport. -/
def transport : Transport Link := fun command args => do
  let (status, replyArgs) ← call (.int command.toNat) (.bytes args)
  pure (.list [status, .bytes replyArgs])

/-- Opens the connection, runs the body, and closes on every way out of it. -/
def within {α : Type} (body : Action Link α) : Action Link α := do
  let _ ← connect
  body.followedBy disconnect

/-- Uses a bus through a new connection to the endpoint. -/
def onBus {α : Type} (endpoint : Endpoint) (x : Action Link α) : Action Bus α := fun bus =>
  let outcome := x { endpoint := endpoint, bus := bus }
  ⟨outcome.result, outcome.state.bus, outcome.trace⟩

end Link

end MailboxControl
