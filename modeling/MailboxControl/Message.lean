import MailboxControl.Failure

/-! The message codec. Requests and replies have the same two fields: a tag byte and an array of
argument bytes. A message holds unvalidated fields, a packet the bytes that travel. -/

namespace MailboxControl

structure Message where
  tag : Value
  args : Value := .bytes []

structure Packet where
  tag : UInt8
  args : Bytes
deriving DecidableEq, Repr

def Packet.toMessage (p : Packet) : Message := ⟨.int p.tag.toNat, .bytes p.args⟩

namespace Message

/-- The tag as a byte. Only an infinite number is not reported as an encoding error. -/
def checkTag (direction : Direction) (tag : Value) : Except Failure UInt8 :=
  match tag.toInteger with
  | .ok n =>
    if 0 ≤ n ∧ n ≤ maxTag then .ok (UInt8.ofNat n.toNat)
    else .error (.encoding (.tagNotByte direction tag))
  | .error .unreadable => .error (.encoding (.tagNotInteger direction tag .value))
  | .error .unsuitable => .error (.encoding (.tagNotInteger direction tag .type))
  | .error .infinite => .error (.fault .infiniteInteger)

/-- The arguments as bytes, which are counted first. -/
def checkArgs (direction : Direction) (args : Value) : Except Failure Bytes :=
  match args.byteCount with
  | .ok count =>
    if count ≤ maxArgs then args.toBytes.mapError .fault
    else .error (.encoding (.tooManyArgs direction count))
  | .error f => .error (.fault f)

/-- Packs a message, the tag being checked before the arguments. -/
def encode (direction : Direction) (m : Message) : Except Failure Packet :=
  match checkTag direction m.tag with
  | .error e => .error e
  | .ok tag =>
    match checkArgs direction m.args with
    | .error e => .error e
    | .ok args => .ok ⟨tag, args⟩

/-- Unpacks a request. -/
def decodeRequest (tag args : Value) : Except Failure Packet :=
  encode .request ⟨tag, args⟩

/-- Unpacks a reply, whose arguments may have any length. -/
def decodeReply (tag args : Value) : Except Failure Packet :=
  match checkTag .reply tag with
  | .error e => .error e
  | .ok status =>
    match args.toBytes with
    | .ok bs => .ok ⟨status, bs⟩
    | .error f =>
      if f.family = .type then .error (.encoding (.argsNotBytes args)) else .error (.fault f)

def decode : Direction → Value → Value → Except Failure Packet
  | .request => decodeRequest
  | .reply => decodeReply

/-- Packs a message and unpacks the result. -/
def recode (direction : Direction) (m : Message) : Except Failure Packet :=
  match encode direction m with
  | .error e => .error e
  | .ok p => decode direction (.int p.tag.toNat) (.bytes p.args)

def same (m n : Message) : Bool := m.tag.same n.tag && m.args.same n.args

/-- The fields in order, the arguments being optional. -/
def ofFields : List Value → Except Fault Message
  | [tag] => .ok ⟨tag, .bytes []⟩
  | [tag, args] => .ok ⟨tag, args⟩
  | [] => .error (.missingArgument "CommandMessage.__init__" "command")
  | fields => .error (.surplusField "CommandMessage.__init__" (fields.length + 1))

def tagText (tag : Value) : Except Fault String :=
  match tag with
  | .float _ | .text _ => .error (.notHexadecimal tag.kind)
  | tag =>
    match tag.integer? with
    | some n => .ok (Text.hexField n)
    | none => .error (.notFormattable tag.kind)

def argsText (args : Value) : Except Fault String :=
  if args.isEmpty then .ok "(empty)"
  else
    match args with
    | .bytes bs => .ok (Text.spacedHex bs)
    | .float _ => .error .surplusHexArgument
    | args => .error (.noFeature args.kind "hex")

def describe (direction : Direction) (m : Message) : Except Fault String :=
  match tagText m.tag with
  | .error f => .error f
  | .ok tag =>
    match argsText m.args with
    | .error f => .error f
    | .ok args =>
      match direction with
      | .request => .ok ("CommandMessage(command=0x" ++ tag ++ ", args=" ++ args ++ ")")
      | .reply => .ok ("ResponseMessage(status=0x" ++ tag ++ ", args=" ++ args ++ ")")

end Message

end MailboxControl
