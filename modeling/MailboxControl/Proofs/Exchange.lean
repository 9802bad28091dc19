import MailboxControl.Exchange
import MailboxControl.Proofs.Action
import MailboxControl.Proofs.Codec

/-! A request over any transport in closed form. What the transport returns decides the result, and
the transport's own events stand between the lines about the request and the reply. -/

namespace MailboxControl

open MailboxControl.Action

namespace Exchange

variable {σ : Type}

def logLines (direction : Direction) (m : Message) : Trace :=
  match m.describe direction with
  | .ok text => [.logged ⟨.debug, .exchange, arrow direction ++ text⟩]
  | .error _ => []

@[simp] theorem logMessage_apply (direction : Direction) (m : Message) (s : σ) :
    logMessage direction m s = ⟨.ok (), s, logLines direction m⟩ := by
  unfold logMessage logLines
  cases m.describe direction <;> rfl

theorem logMessage_bind {α : Type} (direction : Direction) (m : Message) (f : Unit → Action σ α)
    (s : σ) : (logMessage direction m >>= f) s = (f () s).after (logLines direction m) :=
  bind_of_ok (logMessage_apply direction m s) f

/-- The two fields of what a transport returned, with the failures that callers see. -/
def fields (command : UInt8) (reply : Except Failure Value) : Except Failure (Value × Value) :=
  match reply with
  | .error e => .error (wrap command e)
  | .ok v =>
    match v.toPair with
    | .ok pair => .ok pair
    | .error f => .error (.wrapped (.requesting command) (.fault f))

/-- The decoded reply, before its length is looked at. -/
def received (command : UInt8) (reply : Except Failure Value) : Except Failure Packet :=
  match fields command reply with
  | .ok (status, args) => decode status args
  | .error e => .error e

def settle (command : UInt8) (expected : Value) (reply : Except Failure Value) :
    Except Failure Packet :=
  match received command reply with
  | .ok p => trim expected p
  | .error e => .error e

/-- The line about a reply, which a reply that does not decode goes without. -/
def replyLines (reply : Except Failure Packet) : Trace :=
  match reply with
  | .ok p => logLines .reply p.toMessage
  | .error _ => []

theorem deliver_apply (transport : Transport σ) (p : Packet) (s : σ) :
    deliver transport p s =
      ⟨fields p.tag (transport p.tag p.args s).result, (transport p.tag p.args s).state,
        (transport p.tag p.args s).trace⟩ := by
  unfold deliver fields
  rw [mapFailure_apply, bind_apply]
  cases hr : (transport p.tag p.args s).result with
  | error e => rfl
  | ok v => cases hv : v.toPair <;> simp [hv, wrap, Failure.isClient]

theorem finish_apply (expected status args : Value) (s : σ) :
    (do
      let reply ← lift (decode status args)
      logMessage .reply reply.toMessage
      lift (trim expected reply)) s =
      match decode status args with
      | .ok reply => ⟨trim expected reply, s, logLines .reply reply.toMessage⟩
      | .error e => ⟨.error e, s, []⟩ := by
  cases decode status args with
  | error e => exact lift_error_bind e _ s
  | ok reply =>
    rw [lift_ok_bind, logMessage_bind]
    simp

theorem apply_of_encode {transport : Transport σ} {request : Message} {expected : Value}
    {p : Packet} (hx : checkExpected expected = .ok ()) (hp : request.encode .request = .ok p)
    (s : σ) :
    let out := transport p.tag p.args s
    exchange transport request expected s =
      ⟨settle p.tag expected out.result, out.state,
        logLines .request request ++ (out.trace ++ replyLines (received p.tag out.result))⟩ := by
  intro out
  unfold exchange
  rw [hx, lift_ok_bind, hp, lift_ok_bind, logMessage_bind, bind_apply, deliver_apply]
  unfold settle received
  cases hf : fields p.tag out.result with
  | error e => simp [out, replyLines]
  | ok pair =>
    obtain ⟨status, args⟩ := pair
    simp only [finish_apply]
    cases hd : decode status args with
    | error e => simp [out, replyLines]
    | ok reply => simp [out, replyLines]

theorem checkExpected_of_integer? {expected : Value} {k : Int} (h : expected.integer? = some k) :
    checkExpected expected =
      if k < 0 then .error (.fault (.negativeLength expected)) else .ok () := by
  by_cases hk : k < 0 <;>
    simp [checkExpected, Value.number?_of_integer? h, Number.isNegative, hk]

theorem decode_of_integer? {status : Value} {s : Int} (h : status.integer? = some s) (bs : Bytes) :
    decode status (.bytes bs) =
      if 0 ≤ s ∧ s ≤ 255 then .ok ⟨UInt8.ofNat s.toNat, bs⟩
      else .error (.protocol (.malformedReply (.tagNotByte .reply status))) := by
  have hm : ((maxTag : Nat) : Int) = 255 := rfl
  have hb : (Value.bytes bs).toBytes = .ok bs := rfl
  rw [decode, Message.decodeReply_of_parts (Value.toInteger_of_integer? h) hb, hm]
  by_cases hs : 0 ≤ s ∧ s ≤ 255 <;> simp [hs]

theorem decode_infinite (negative : Bool) (bs : Bytes) :
    decode (.float (.infinite negative)) (.bytes bs) = .error (.fault .infiniteInteger) := rfl

/-- What a reply fails with if its fields do not decode. -/
theorem decode_error {status args : Value} {e : Failure} (h : decode status args = .error e) :
    (∃ p, e = .protocol p) ∨
    (e = .fault .infiniteInteger ∧ ∃ negative, status = .float (.infinite negative)) ∨
    ∃ (t : UInt8) (f : Fault), status.toInteger = .ok (t.toNat : Int) ∧ args.toBytes = .error f ∧
      f.family ≠ .type ∧ e = .fault f := by
  simp only [decode, Message.decodeReply] at h
  cases hc : Message.checkTag .reply status with
  | error x =>
    simp only [hc] at h
    rcases Message.checkTag_error hc with ⟨y, rfl⟩ | ⟨rfl, hi⟩
    · exact Or.inl ⟨_, (Except.error.inj h).symm⟩
    · exact Or.inr (Or.inl ⟨(Except.error.inj h).symm, hi⟩)
  | ok t =>
    cases hb : args.toBytes with
    | ok bs => simp [hc, hb] at h
    | error f =>
      by_cases hf : f.family = .type
      · simp only [hc, hb, hf, if_true] at h
        exact Or.inl ⟨_, (Except.error.inj h).symm⟩
      · simp only [hc, hb, hf, if_false] at h
        exact Or.inr (Or.inr ⟨t, f, Message.checkTag_eq_ok_iff.mp hc, rfl, hf,
          (Except.error.inj h).symm⟩)

theorem decode_bytes_error {status : Value} {bs : Bytes} {e : Failure}
    (h : decode status (.bytes bs) = .error e) :
    (∃ p, e = .protocol p) ∨
      e = .fault .infiniteInteger ∧ ∃ negative, status = .float (.infinite negative) := by
  rcases decode_error h with hp | hi | ⟨_, f, _, hb, _⟩
  · exact Or.inl hp
  · exact Or.inr hi
  · cases hb

theorem trim_of_integer? {expected : Value} {k : Int} (h : expected.integer? = some k) (p : Packet) :
    trim expected p =
      if (p.args.length : Int) < k then .error (.protocol (.shortReply expected p.args.length))
      else .ok ⟨p.tag, p.args.take k.toNat⟩ := by
  simp [trim, Value.number?_of_integer? h, h, Number.isAbove]

theorem trim_nat (n : Nat) (p : Packet) :
    trim (.int n) p =
      if p.args.length < n then .error (.protocol (.shortReply (.int n) p.args.length))
      else .ok ⟨p.tag, p.args.take n⟩ := by
  rw [trim_of_integer? rfl, Int.toNat_natCast]
  simp only [Int.ofNat_lt]

end Exchange

end MailboxControl
