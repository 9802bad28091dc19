import MailboxControl.Proofs.Lifecycle
import MailboxControl.Proofs.Use

/-! Requests over a connection. A request reads the next reply and leaves everything else of the
connection as it is, however it ends, so a connection that has been used answers the next request as
one that has just been opened. -/

namespace MailboxControl

open MailboxControl.Action Exchange

namespace Link

/-- Two connections that answer a call in the same way. What they will do when they are opened or
closed may differ. -/
structure Alike (link other : Link) : Prop where
  connected : link.connected = other.connected
  endpoint : link.endpoint = other.endpoint
  replies : link.bus.replies = other.bus.replies

theorem Alike.nextReply {link other : Link} (h : link.Alike other) :
    link.bus.nextReply.1 = other.bus.nextReply.1 := by
  simp only [Bus.nextReply, h.replies]

theorem Alike.addressed {link other : Link} (h : link.Alike other) (command args : Value) :
    link.addressed command args = other.addressed command args := by
  simp only [Link.addressed, h.connected, h.endpoint]

theorem Alike.call {link other : Link} (h : link.Alike other) (command args : Value) :
    (call command args link).result = (call command args other).result ∧
      (call command args link).trace = (call command args other).trace := by
  rw [call_eq, call_eq, h.addressed]
  cases other.addressed command args with
  | error e => exact ⟨rfl, rfl⟩
  | ok request => exact ⟨congrArg reading h.nextReply, rfl⟩

theorem Alike.transport {link other : Link} (h : link.Alike other) (command : UInt8) (bs : Bytes) :
    (transport command bs link).result = (transport command bs other).result ∧
      (transport command bs link).trace = (transport command bs other).trace := by
  obtain ⟨hr, ht⟩ := h.call (.int command.toNat) (.bytes bs)
  rw [transport_eq_call, transport_eq_call]
  exact ⟨congrArg (Except.map _) hr, ht⟩

theorem call_busEvents (command args : Value) (link : Link) :
    (call command args link).trace.busEvents = [] ∨
      ∃ request, link.addressed command args = .ok request ∧
        (call command args link).trace.busEvents = [.sent request] := by
  rw [call_eq]
  cases link.addressed command args with
  | error e => exact Or.inl rfl
  | ok request => exact Or.inr ⟨request, rfl, rfl⟩

end Link

/-- What a bus library takes it hands over as it is. -/
theorem Endpoint.ofValues_text {library : BusLibrary} {bus name path interface : String}
    {endpoint : Endpoint}
    (h : ofValues (.text bus) (.text name) (.text path) (.text interface) library = .ok endpoint) :
    endpoint = ⟨.text (Text.upperCase bus), .ok name, path, some interface⟩ := by
  unfold ofValues at h
  cases ha : library.address (.text path) (.text name) (.text interface) with
  | error f => simp [checkBus, ha] at h
  | ok parts =>
    obtain ⟨objectPath, busName, interfaceName, hpath, hname, hinterface⟩ := parts
    cases hpath
    cases busName with
    | none => cases hname
    | some given =>
      cases hname
      cases interfaceName with
      | none => cases hinterface
      | some given =>
        cases hinterface
        simp only [checkBus, ha] at h
        exact (Except.ok.inj h).symm

theorem Use.run_alike {link other : Link} (h : link.Alike other) (u : Use) :
    (u.run Link.transport link).result = (u.run Link.transport other).result ∧
      (u.run Link.transport link).trace = (u.run Link.transport other).trace := by
  rcases u.packs_or_stops with ⟨m, p, hp⟩ | ⟨e, he⟩
  · obtain ⟨hr, ht⟩ := h.transport p.tag p.args
    rw [run_of_packs hp, run_of_packs hp, hr, ht]
    exact ⟨rfl, rfl⟩
  · rw [he, he]
    exact ⟨rfl, rfl⟩

theorem Move.run_call (command args : Value) (link : Link) :
    let out := Link.call command args link
    (Move.call command args).run link =
      ⟨out.result.map fun fields => .fields fields.1 fields.2, out.state, out.trace⟩ :=
  bind_pure_apply _ (fun fields : Value × Bytes => Gain.fields fields.1 fields.2) link

theorem Move.run_use (u : Use) (link : Link) :
    let out := u.run Link.transport link
    (Move.use u).run link = ⟨out.result.map .yield, out.state, out.trace⟩ :=
  bind_pure_apply _ Gain.yield link

inductive Request where
  | call (command args : Value)
  | use (u : Use)

namespace Request

def move : Request → Move
  | call command args => .call command args
  | use u => .use u

/-- The command and the argument bytes that a request has put on the bus. -/
def Asks (command : Value) (bs : Bytes) : Request → Prop
  | call given args => command = given ∧ args.toBytes = .ok bs
  | use u => ∃ m n, u.request = .ok m ∧ m.tag.toInteger = .ok n ∧ command = .int n ∧
      m.args.toBytes = .ok bs

/-- The call goes to the endpoint, by the one method there is, with what the request asks. -/
structure Addressed (r : Request) (endpoint : Endpoint) (call : BusCall) : Prop where
  destination : endpoint.busName = some call.destination
  path : call.path = endpoint.objectPath
  interface : call.interface = endpoint.interface
  method : call.method = "cmd"
  signature : call.signature = "yay"
  body : r.Asks call.command call.args

def Reaches : Request → Prop
  | call _ _ => True
  | use u => u.Reaches

theorem run_state (r : Request) (link : Link) :
    (r.move.run link).state = link.past (r.move.run link).trace := by
  cases r with
  | call command args =>
    rw [move, Move.run_call]
    exact Link.call_state command args link
  | use u =>
    rw [move, Move.run_use]
    exact u.run_state link

theorem run_alike {link other : Link} (h : link.Alike other) (r : Request) :
    (r.move.run link).result = (r.move.run other).result ∧
      (r.move.run link).trace = (r.move.run other).trace := by
  cases r with
  | call command args =>
    obtain ⟨hr, ht⟩ := h.call command args
    rw [move, Move.run_call, Move.run_call]
    exact ⟨congrArg (Except.map _) hr, ht⟩
  | use u =>
    obtain ⟨hr, ht⟩ := Use.run_alike h u
    rw [move, Move.run_use, Move.run_use]
    exact ⟨congrArg (Except.map _) hr, ht⟩

theorem run_busEvents (r : Request) (link : Link) :
    (r.move.run link).trace.busEvents = [] ∨
      ∃ call, link.connected = true ∧ r.Addressed link.endpoint call ∧
        (r.move.run link).trace.busEvents = [.sent call] := by
  cases r with
  | call command args =>
    rw [move, Move.run_call]
    rcases Link.call_busEvents command args link with he | ⟨call, ha, he⟩
    · exact Or.inl he
    · obtain ⟨name, bs, hc, hn, hb, rfl⟩ := Link.addressed_eq_ok ha
      exact Or.inr ⟨_, hc, ⟨Endpoint.busName_eq_some_iff.mpr hn, rfl, rfl, rfl, rfl, rfl, hb⟩, he⟩
  | use u =>
    rw [move, Move.run_use]
    dsimp only
    rcases u.packs_or_stops with ⟨m, p, hp⟩ | ⟨e, he⟩
    · rw [Use.run_busEvents hp, Link.transport_eq_call]
      rcases Link.call_busEvents (.int p.tag.toNat) (.bytes p.args) link with he | ⟨call, ha, he⟩
      · exact Or.inl he
      · obtain ⟨name, bs, hc, hn, hbs, rfl⟩ := Link.addressed_eq_ok ha
        cases hbs
        obtain ⟨ht, hb, _⟩ := Message.encode_eq_ok_iff.mp hp.2
        have hname := Endpoint.busName_eq_some_iff.mpr hn
        exact Or.inr ⟨_, hc, ⟨hname, rfl, rfl, rfl, rfl, m, _, hp.1, ht, rfl, hb⟩, he⟩
    · rw [he]
      exact Or.inl rfl

theorem run_of_closed {r : Request} {link : Link} (hc : link.connected = false) (hr : r.Reaches) :
    (r.move.run link).result = .error .unconnected := by
  cases r with
  | call command args =>
    rw [move, Move.run_call, Link.call_of_closed hc]
    rfl
  | use u =>
    obtain ⟨m, p, hp⟩ := Use.Reaches.packs hr
    rw [move, Move.run_use, Use.run_of_packs hp, Link.transport_of_closed hc]
    cases u <;> rfl

def runAll (rs : List Request) (link : Link) : List Account × Link × Trace :=
  Step.runAll [] (rs.map fun r => .move r.move) link

theorem runAll_cons (r : Request) (rs : List Request) (link : Link) :
    let out := r.move.run link
    runAll (r :: rs) link =
      (.move out.result out.state.connected out.trace :: (runAll rs out.state).1,
        (runAll rs out.state).2) := by
  simp [runAll, Step.runAll, Step.run]

/-- After any requests the connection is what it was, less the replies that were read. -/
theorem runAll_state (rs : List Request) (link : Link) :
    (runAll rs link).2.1 = link.past (Account.shownAll (runAll rs link).1) := by
  induction rs generalizing link with
  | nil => rfl
  | cons r rs ih =>
    have hs := r.run_state link
    have hrest := ih (r.move.run link).state
    rw [runAll_cons]
    simp only [Account.shownAll, Account.shown]
    rw [hrest, hs, Link.past_append]

theorem alike_fresh {link : Link} {bus : Bus} (hc : link.connected = true)
    (ho : bus.nextOpen.1 = none) (rs : List Request)
    (hr : bus.replies = link.bus.replies.drop
      ((Account.shownAll (runAll rs link).1).countP Event.isSent)) :
    (runAll rs link).2.1.Alike
      (Link.connect { endpoint := link.endpoint, bus := bus }).state := by
  rw [runAll_state, Link.connect_of_opened rfl ho]
  exact ⟨hc, rfl, hr.symm⟩

/-- A request changes nothing of a connection but the replies that are left. It puts at most one call
on the bus, addressed to the endpoint and with what was asked, and none while the connection is down.
After any requests, whatever became of them, the next one goes as on a connection just opened. -/
theorem run_isolated (r : Request) (link : Link) :
    let out := r.move.run link
    (out.state.connected = link.connected ∧ out.state.endpoint = link.endpoint) ∧
    (out.trace.busEvents = [] ∨
      ∃ call, out.trace.busEvents = [.sent call] ∧ r.Addressed link.endpoint call) ∧
    (link.connected = false →
      out.trace.busEvents = [] ∧ (r.Reaches → out.result = .error .unconnected)) ∧
    (link.connected = true → ∀ (earlier : List Request) (bus : Bus),
      let history := Step.runAll [] (earlier.map fun r => .move r.move) link
      let fresh := Link.connect { endpoint := link.endpoint, bus := bus }
      bus.nextOpen.1 = none →
      bus.replies = link.bus.replies.drop ((Account.shownAll history.1).countP Event.isSent) →
        fresh.result = .ok link.endpoint ∧
        (r.move.run history.2.1).result = (r.move.run fresh.state).result ∧
        (r.move.run history.2.1).trace = (r.move.run fresh.state).trace) ∧
    ∀ (library : BusLibrary) (bus name path interface : String) (endpoint : Endpoint),
      Endpoint.ofValues (.text bus) (.text name) (.text path) (.text interface) library =
        .ok endpoint →
        endpoint = ⟨.text (Text.upperCase bus), .ok name, path, some interface⟩ := by
  intro out
  have hstate : out.state = link.past out.trace := r.run_state link
  refine ⟨by rw [hstate]; exact ⟨rfl, rfl⟩, ?_, fun hc => ⟨?_, run_of_closed hc⟩, ?_,
    fun library bus name path interface endpoint => Endpoint.ofValues_text⟩
  · rcases r.run_busEvents link with he | ⟨call, _, ha, he⟩
    · exact Or.inl he
    · exact Or.inr ⟨call, he, ha⟩
  · rcases r.run_busEvents link with he | ⟨call, hup, _, _⟩
    · exact he
    · exact absurd (hc.symm.trans hup) (by decide)
  · intro hc earlier bus history fresh ho hr
    have hopen : fresh.result = .ok link.endpoint :=
      congrArg Outcome.result (Link.connect_of_opened rfl ho)
    exact ⟨hopen, r.run_alike (alike_fresh hc ho earlier hr)⟩

end Request

end MailboxControl
