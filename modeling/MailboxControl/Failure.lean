import MailboxControl.Address
import MailboxControl.Value.Conversion

/-! Everything that can end an operation early: the client's own errors, faults in the handling of
unvalidated data, and what the bus reports from outside. The client's errors carry the exit code
that the process ends with. -/

namespace MailboxControl

/-- The two directions of a message: requests are tagged with a command, replies with a status. -/
inductive Direction where
  | request
  | reply
deriving DecidableEq, Repr

def Direction.tagWord : Direction → String
  | .request => "Command"
  | .reply => "Status"

/-- Operating-system failures that have a class of their own. -/
inductive SystemKind where
  | unclassified
  | permission
  | fileNotFound
  | noProcess
  | interrupted
  | noChild
  | wouldBlock
  | fileExists
  | notDirectory
  | isDirectory
  | brokenPipe
  | connection
  | connectionAborted
  | connectionReset
  | connectionRefused
  | timeout
deriving DecidableEq, Repr

/-- The class that an error number belongs to. Only whole numbers have one. -/
def SystemKind.ofNumber (n : Value) : SystemKind :=
  let table : List (Int × SystemKind) :=
    [(1, .permission), (2, .fileNotFound), (3, .noProcess), (4, .interrupted), (10, .noChild),
      (11, .wouldBlock), (13, .permission), (17, .fileExists), (20, .notDirectory),
      (21, .isDirectory), (32, .brokenPipe), (103, .connectionAborted), (104, .connectionReset),
      (108, .brokenPipe), (110, .timeout), (111, .connectionRefused), (114, .wouldBlock),
      (115, .wouldBlock)]
  match table.find? (fun entry => n.integer? == some entry.1) with
  | some entry => entry.2
  | none => .unclassified

def SystemKind.isConnection : SystemKind → Bool
  | .connection | .brokenPipe | .connectionAborted | .connectionReset | .connectionRefused => true
  | _ => false

/-- The sorts of outside errors about values. -/
inductive ValueKind where
  | plain
  | textEncoding
deriving DecidableEq, Repr

inductive ValidationError where
  | stated (text : String) (number : Option Value)
  | resumeArgument (given : Value)

inductive EncodingError where
  | stated (text : String) (number : Option Value)
  | tagNotInteger (direction : Direction) (tag : Value) (family : FaultFamily)
  | tagNotByte (direction : Direction) (tag : Value)
  | tooManyArgs (direction : Direction) (count : Nat)
  | argsNotBytes (args : Value)
  | wrongArgsLength (command : String) (takes given : Nat)

inductive ProtocolError where
  | stated (text : String) (number : Option Value)
  | malformedReply (error : EncodingError)
  | shortReply (expected : Value) (given : Nat)
  | noStateByte

/-- What the client was doing when something below it failed. -/
inductive Stage where
  | stated (text : String)
  | connecting (bus : BusAddress)
  | posting
  | requesting (command : UInt8)

inductive Failure where
  | general (text : String) (number : Option Value)
  | validation (error : ValidationError)
  | encoding (error : EncodingError)
  | protocol (error : ProtocolError)
  | daemon (operation status phrase : Value)
  | unconnected
  | transport (text : String)
  | wrapped (stage : Stage) (cause : Failure)
  | fault (fault : Fault)
  | system (kind : SystemKind) (number : Option Value) (text : String)
  | badValue (kind : ValueKind) (text : String) (number : Option Value)
  | badKey (key : Option String) (number : Option Value)
  | foreign (kind : String) (text : String) (number : Option Value)
  | busError (name : Option String)
  | exhausted

def ValidationError.message : ValidationError → String
  | stated text _ => text
  | resumeArgument given =>
    "Resume argument must be 0 (not modified) or 1 (modified), got " ++ given.literal

/-- The largest argument array that the daemon accepts. -/
def maxArgs : Nat := 255

/-- The largest tag. -/
def maxTag : Nat := 255

def EncodingError.message : EncodingError → String
  | stated text _ => text
  | tagNotInteger direction tag _ =>
    direction.tagWord ++ " byte must be an integer, got " ++ tag.literal
  | tagNotByte direction tag =>
    direction.tagWord ++ " byte must be 0-" ++ toString maxTag ++ ", got " ++ tag.plain
  | tooManyArgs direction count =>
    direction.tagWord ++ " arguments must be at most " ++ toString maxArgs ++ " bytes, got " ++
      toString count
  | argsNotBytes args => "Status arguments must be bytes, got " ++ args.literal
  | wrongArgsLength command takes given =>
    command ++ " takes " ++ toString takes ++ " argument byte(s), got " ++ toString given

/-- The family of the fault behind an encoding error. -/
def EncodingError.cause? : EncodingError → Option FaultFamily
  | tagNotInteger _ _ family => some family
  | argsNotBytes _ => some .type
  | _ => none

def ProtocolError.message : ProtocolError → String
  | stated text _ => text
  | malformedReply error => "Malformed reply: " ++ error.message
  | shortReply expected given =>
    "Command returned insufficient response args: expected " ++ expected.plain ++ ", got " ++
      toString given
  | noStateByte => "Status reply carries no state byte"

namespace Failure

def unconnectedText : String := "Not connected to the bus"

def message : Failure → String
  | general text _ => text
  | validation error => error.message
  | encoding error => error.message
  | protocol error => error.message
  | daemon operation _ phrase => operation.plain ++ ": " ++ phrase.plain
  | unconnected => unconnectedText
  | transport text => text
  | wrapped stage cause =>
    match stage with
    | .stated text => text
    | .connecting bus => "Failed to connect to the " ++ bus.shown ++ " bus: " ++ cause.message
    | .posting => "Failed to post message: " ++ cause.message
    | .requesting command =>
      "Request 0x" ++ Text.hexField command.toNat ++ " failed: " ++ cause.message
  | fault f => f.message
  | system _ number text =>
    match number with
    | some n => "[Errno " ++ n.plain ++ "] " ++ text
    | none => text
  | badValue _ text _ => text
  | badKey key _ =>
    match key with
    | some k => Text.quoteText k
    | none => ""
  | foreign _ text _ => text
  | busError name => name.getD "None"
  | exhausted => "script exhausted"

/-- The client's own errors. -/
def isClient : Failure → Bool
  | general _ _ | validation _ | encoding _ | protocol _ | daemon _ _ _ | unconnected | transport _
  | wrapped _ _ => true
  | _ => false

/-- Failures of the transport count as failures of the operating system. -/
def isSystem : Failure → Bool
  | unconnected | transport _ | wrapped _ _ | system _ _ _ => true
  | _ => false

def isConnection : Failure → Bool
  | unconnected | transport _ | wrapped _ _ => true
  | system kind _ _ => kind.isConnection
  | _ => false

def isValue : Failure → Bool
  | validation _ | encoding _ | badValue _ _ _ => true
  | fault f => f.family == .value
  | _ => false

/-- The error number that a failure carries, whatever its type. -/
def number? : Failure → Option Value
  | general _ number | validation (.stated _ number) | encoding (.stated _ number)
  | protocol (.stated _ number) | system _ number _ | badValue _ _ number | badKey _ number
  | foreign _ _ number => number
  | _ => none

/-- The exit code for input and output errors. -/
def ioExitCode : Int := -5

/-- A positive error number gives its negation. -/
def exitCodeOfCause (cause : Failure) : Int :=
  match cause.number?.bind Value.integer? with
  | some n => if 0 < n then -n else ioExitCode
  | none => ioExitCode

def exitCode : Failure → Except Fault Number
  | validation _ | encoding _ => .ok (.whole (-2))
  | daemon _ status _ => status.negated
  | unconnected | transport _ => .ok (.whole ioExitCode)
  | wrapped _ cause => .ok (.whole (exitCodeOfCause cause))
  | _ => .ok (.whole (-1))

end Failure

end MailboxControl
