import MailboxControl.Connection
import MailboxControl.Proofs.Action

/-! The operations of a connection, case by case. Opening and closing act on the bus only where
there is something to open or to close, and a call that can be addressed is sent once. -/

namespace MailboxControl

theorem Endpoint.busName_eq_some_iff {e : Endpoint} {name : String} :
    e.busName = some name ↔ e.destination = .ok name := by
  unfold busName
  cases e.destination <;> simp [Except.toOption]

theorem Endpoint.busName_ne_none_iff {e : Endpoint} :
    e.busName ≠ none ↔ ∃ name, e.destination = .ok name := by
  simp only [Option.ne_none_iff_exists', busName_eq_some_iff]

namespace Link

open MailboxControl.Action

theorem connect_of_connected {link : Link} (hc : link.connected = true) :
    connect link = ⟨.ok link.endpoint, link, []⟩ := by
  simp [connect, hc]

def upLogs (link : Link) : Trace :=
  [.logged ⟨.info, .connection, "Connected to " ++ link.endpoint.bus.shown ++ " bus"⟩]

theorem connect_of_opened {link : Link} (hc : link.connected = false)
    (ho : link.bus.nextOpen.1 = none) :
    connect link = ⟨.ok link.endpoint, { link with bus := link.bus.nextOpen.2, connected := true },
      .opened link.endpoint.bus true :: upLogs link⟩ := by
  simp [connect, hc, ho, upLogs]

theorem connect_of_refused {link : Link} {e : Failure} (hc : link.connected = false)
    (ho : link.bus.nextOpen.1 = some e) :
    connect link = ⟨.error (.wrapped (.connecting link.endpoint.bus) e),
      { link with bus := link.bus.nextOpen.2 }, [.opened link.endpoint.bus false]⟩ := by
  simp [connect, hc, ho]

theorem connect_of_error {link : Link} {e : Failure} (h : (connect link).result = .error e) :
    (connect link).state.connected = false ∧
      (connect link).trace = [.opened link.endpoint.bus false] := by
  cases hc : link.connected with
  | true => simp [connect_of_connected hc] at h
  | false =>
    cases ho : link.bus.nextOpen.1 with
    | none => simp [connect_of_opened hc ho] at h
    | some f => simp [connect_of_refused hc ho, hc]

def downLogs (problem : Option Failure) : Trace :=
  match problem with
  | some e =>
    [.logged ⟨.warning, .connection, "Error closing bus connection: " ++ e.message⟩,
      .logged ⟨.info, .connection, "Disconnected"⟩]
  | none => [.logged ⟨.info, .connection, "Disconnected"⟩]

theorem disconnect_of_connected {link : Link} (hc : link.connected = true) :
    disconnect link = ⟨.ok (), { link with bus := link.bus.nextClose.2, connected := false },
      .closed :: downLogs link.bus.nextClose.1⟩ := by
  cases hp : link.bus.nextClose.1 <;> simp [disconnect, hc, hp, downLogs]

theorem disconnect_of_closed {link : Link} (hc : link.connected = false) :
    disconnect link = ⟨.ok (), link, []⟩ := by
  simp [disconnect, hc]

theorem disconnect_result (link : Link) : (disconnect link).result = .ok () := by
  cases hc : link.connected with
  | true => rw [disconnect_of_connected hc]
  | false => rw [disconnect_of_closed hc]

theorem followedBy_disconnect {α : Type} (body : Action Link α) (link : Link) :
    body.followedBy disconnect link =
      ⟨(body link).result, (disconnect (body link).state).state,
        (body link).trace ++ (disconnect (body link).state).trace⟩ :=
  followedBy_of_ok (disconnect_result _)

theorem disconnect_connected (link : Link) : (disconnect link).state.connected = false := by
  cases hc : link.connected with
  | true => rw [disconnect_of_connected hc]
  | false => rw [disconnect_of_closed hc, hc]

theorem within_of_refused {α : Type} {link : Link} {e : Failure} (hc : link.connected = false)
    (ho : link.bus.nextOpen.1 = some e) (body : Action Link α) :
    within body link = ⟨.error (.wrapped (.connecting link.endpoint.bus) e),
      { link with bus := link.bus.nextOpen.2 }, [.opened link.endpoint.bus false]⟩ :=
  bind_of_error (connect_of_refused hc ho) _

theorem within_of_opened {α : Type} {link : Link} (hc : link.connected = false)
    (ho : link.bus.nextOpen.1 = none) (body : Action Link α) :
    within body link =
      (body.followedBy disconnect { link with bus := link.bus.nextOpen.2, connected := true }).after
        (.opened link.endpoint.bus true :: upLogs link) :=
  bind_of_ok (connect_of_opened hc ho) _

/-- A scoped use leaves no connection, whatever it was used for. -/
theorem within_connected {α : Type} (body : Action Link α) (link : Link) :
    (within body link).state.connected = false := by
  unfold within
  rw [bind_apply]
  cases hr : (connect link).result with
  | error e => exact (connect_of_error hr).1
  | ok endpoint => exact disconnect_connected _

/-- The two fields of an answer. Anything else that comes back is a failure of the posting. -/
def posted (answer : Except Failure (List Value)) : Except Failure (Value × Value) :=
  match answer with
  | .error e => .error (wrapPost e)
  | .ok body =>
    match Value.pairOfItems body with
    | .ok pair => .ok pair
    | .error f => .error (.wrapped .posting (.fault f))

/-- The status and the bytes of an answer, as a caller of the connection gets them. -/
def reading (answer : Except Failure (List Value)) : Except Failure (Value × Bytes) :=
  match posted answer with
  | .error e => .error e
  | .ok (status, args) =>
    match args.toBytes with
    | .ok bs => .ok (status, bs)
    | .error f => .error (.fault f)

def relay (answer : Except Failure (List Value)) : Except Failure Value :=
  match reading answer with
  | .ok (status, bs) => .ok (.list [status, .bytes bs])
  | .error e => .error e

def callOf (endpoint : Endpoint) (name : String) (command : Value) (args : Bytes) : BusCall :=
  ⟨name, endpoint.objectPath, endpoint.interface, Endpoint.method, Endpoint.signature, command, args⟩

theorem pairOfItems_fault {body : List Value} {f : Fault} (h : Value.pairOfItems body = .error f) :
    f.family = .value := by
  unfold Value.pairOfItems at h
  split at h
  · cases h
  · cases h
    split <;> rfl

theorem post_apply (request : BusCall) (link : Link) :
    post request link =
      ⟨posted link.bus.nextReply.1, { link with bus := link.bus.nextReply.2 }, [.sent request]⟩ := by
  unfold post posted
  rcases link.bus.nextReply with ⟨answer, bus⟩
  cases answer with
  | error e => rfl
  | ok body =>
    cases hp : Value.pairOfItems body with
    | ok pair => simp [hp]
    | error f =>
      have hf := pairOfItems_fault hp
      simp [hp, wrapPost, Failure.isValue, hf]

theorem call_of_closed {link : Link} (hc : link.connected = false) (command args : Value) :
    call command args link = ⟨.error .unconnected, link, []⟩ := by
  simp [call, hc]

theorem call_of_no_bytes {link : Link} {args : Value} {f : Fault} (hc : link.connected = true)
    (hb : args.toBytes = .error f) (command : Value) :
    call command args link = ⟨.error (.fault f), link, []⟩ := by
  have hl : args.toBytes.mapError Failure.fault = .error (.fault f) := by rw [hb]; rfl
  simp only [call, hc, if_true, hl, lift_error_bind]

theorem call_of_unnamed {link : Link} {args : Value} {bs : Bytes} {f : Fault}
    (hc : link.connected = true) (hb : args.toBytes = .ok bs)
    (hn : link.endpoint.destination = .error f) (command : Value) :
    call command args link = ⟨.error (.fault f), link, []⟩ := by
  have hl : args.toBytes.mapError Failure.fault = .ok bs := by rw [hb]; rfl
  have ha : address link.endpoint command bs = .error (.fault f) := by simp [address, hn]
  simp only [call, hc, if_true, hl, lift_ok_bind, ha, lift_error_bind]

theorem call_apply {link : Link} {args : Value} {bs : Bytes} {name : String}
    (hc : link.connected = true) (hb : args.toBytes = .ok bs)
    (hn : link.endpoint.destination = .ok name) (command : Value) :
    call command args link =
      ⟨reading link.bus.nextReply.1, { link with bus := link.bus.nextReply.2 },
        [.sent (callOf link.endpoint name command bs)]⟩ := by
  have hl : args.toBytes.mapError Failure.fault = .ok bs := by rw [hb]; rfl
  have ha : address link.endpoint command bs = .ok (callOf link.endpoint name command bs) := by
    simp [address, hn, callOf]
  simp only [call, hc, if_true, hl, lift_ok_bind, ha]
  rw [bind_apply, post_apply]
  unfold reading
  cases posted link.bus.nextReply.1 with
  | error e => simp [hc]
  | ok pair =>
    obtain ⟨status, args⟩ := pair
    cases hargs : args.toBytes with
    | error f => simp [hargs, hc]
    | ok replyBytes => simp [hargs, hc]

/-- The call that is put on the bus. There is none without a connection, argument bytes and a
destination. -/
def addressed (link : Link) (command args : Value) : Except Failure BusCall :=
  if link.connected then
    match args.toBytes, link.endpoint.destination with
    | .error f, _ => .error (.fault f)
    | .ok _, .error f => .error (.fault f)
    | .ok bs, .ok name => .ok (callOf link.endpoint name command bs)
  else .error .unconnected

theorem call_eq (command args : Value) (link : Link) :
    call command args link =
      match link.addressed command args with
      | .error e => ⟨.error e, link, []⟩
      | .ok request =>
        ⟨reading link.bus.nextReply.1, { link with bus := link.bus.nextReply.2 },
          [.sent request]⟩ := by
  cases hc : link.connected with
  | false => simp [call_of_closed hc, addressed, hc]
  | true =>
    cases hb : args.toBytes with
    | error f => simp [call_of_no_bytes hc hb, addressed, hc, hb]
    | ok bs =>
      cases hn : link.endpoint.destination with
      | error f => simp [call_of_unnamed hc hb hn, addressed, hc, hb, hn]
      | ok name => simp [call_apply hc hb hn, addressed, hc, hb, hn]

theorem addressed_eq_ok {link : Link} {command args : Value} {request : BusCall}
    (h : link.addressed command args = .ok request) :
    ∃ name bs, link.connected = true ∧ link.endpoint.destination = .ok name ∧
      args.toBytes = .ok bs ∧ request = callOf link.endpoint name command bs := by
  unfold addressed at h
  split at h
  · next hc =>
    split at h
    · cases h
    · cases h
    · next bs name hb hn => exact ⟨name, bs, hc, hn, hb, (Except.ok.inj h).symm⟩
  · cases h

theorem transport_apply {link : Link} {name : String} (hc : link.connected = true)
    (hn : link.endpoint.destination = .ok name) (command : UInt8) (bs : Bytes) :
    transport command bs link =
      ⟨relay link.bus.nextReply.1, { link with bus := link.bus.nextReply.2 },
        [.sent (callOf link.endpoint name (.int command.toNat) bs)]⟩ := by
  unfold transport relay
  rw [bind_apply, call_apply hc rfl hn]
  cases hr : reading link.bus.nextReply.1 with
  | error e => simp
  | ok fields => simp

theorem transport_eq_call (command : UInt8) (bs : Bytes) (link : Link) :
    let out := call (.int command.toNat) (.bytes bs) link
    transport command bs link =
      ⟨out.result.map fun fields => .list [fields.1, .bytes fields.2], out.state, out.trace⟩ :=
  bind_pure_apply _ (fun fields : Value × Bytes => Value.list [fields.1, .bytes fields.2]) link

theorem transport_of_closed {link : Link} (hc : link.connected = false) (command : UInt8)
    (bs : Bytes) : transport command bs link = ⟨.error .unconnected, link, []⟩ :=
  bind_of_error (call_of_closed hc _ _) _

theorem transport_of_unnamed {link : Link} {f : Fault} (hc : link.connected = true)
    (hn : link.endpoint.destination = .error f) (command : UInt8) (bs : Bytes) :
    transport command bs link = ⟨.error (.fault f), link, []⟩ :=
  bind_of_error (call_of_unnamed hc rfl hn _) _

end Link

end MailboxControl
