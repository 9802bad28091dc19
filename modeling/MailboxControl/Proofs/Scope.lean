import MailboxControl.Proofs.Answer

/-! An operation in a scoped use of a new connection. On the bus it opens, sends and closes, each
once, or its opening fails and nothing follows; nothing is said to the operator meanwhile. -/

namespace MailboxControl

open MailboxControl.Action Exchange

def Event.isSaid : Event → Bool
  | .printed _ | .complained _ => true
  | _ => false

namespace Trace

/-- The lines written for the operator. -/
def said (t : Trace) : Trace := t.filter Event.isSaid

def OnlyLogs (t : Trace) : Prop := ∀ e ∈ t, ∃ r, e = .logged r

theorem busEvents_append (t u : Trace) : busEvents (t ++ u) = busEvents t ++ busEvents u :=
  List.filter_append t u

theorem said_append (t u : Trace) : said (t ++ u) = said t ++ said u := List.filter_append t u

theorem OnlyLogs.busEvents {t : Trace} (h : OnlyLogs t) : t.busEvents = [] := by
  apply List.filter_eq_nil_iff.mpr
  intro e he
  obtain ⟨r, rfl⟩ := h e he
  simp

theorem OnlyLogs.said {t : Trace} (h : OnlyLogs t) : t.said = [] := by
  apply List.filter_eq_nil_iff.mpr
  intro e he
  obtain ⟨r, rfl⟩ := h e he
  simp [Event.isSaid]

theorem onlyLogs_logLines (direction : Direction) (m : Message) :
    OnlyLogs (logLines direction m) := by
  intro e he
  unfold logLines at he
  split at he
  · exact ⟨_, List.mem_singleton.mp he⟩
  · cases he

theorem onlyLogs_replyLines (reply : Except Failure Packet) : OnlyLogs (replyLines reply) := by
  cases reply with
  | ok p => exact onlyLogs_logLines _ _
  | error e => exact fun e he => by cases he

end Trace

namespace Link

theorem onlyLogs_upLogs (link : Link) : Trace.OnlyLogs (upLogs link) :=
  fun _ he => ⟨_, List.mem_singleton.mp he⟩

theorem onlyLogs_downLogs (problem : Option Failure) : Trace.OnlyLogs (downLogs problem) := by
  cases problem <;> simp [downLogs, Trace.OnlyLogs]

theorem disconnect_said (link : Link) : (disconnect link).trace.said = [] := by
  cases hc : link.connected with
  | true => rw [disconnect_of_connected hc]; exact (onlyLogs_downLogs _).said
  | false => rw [disconnect_of_closed hc]; rfl

theorem disconnect_busEvents {link : Link} (hc : link.connected = true) :
    (disconnect link).trace.busEvents = [.closed] := by
  rw [disconnect_of_connected hc]
  exact congrArg (Event.closed :: ·) (onlyLogs_downLogs _).busEvents

/-- A new connection to the daemon on the system bus. -/
def toDaemon (bus : Bus) : Link := { endpoint := .system, bus := bus }

def opened (link : Link) : Link := { link with bus := link.bus.nextOpen.2, connected := true }

section Within

variable {α : Type} {link : Link}

theorem within_result (hc : link.connected = false) (ho : link.bus.nextOpen.1 = none)
    (body : Action Link α) : (within body link).result = (body link.opened).result := by
  rw [within_of_opened hc ho, followedBy_disconnect]
  rfl

theorem within_trace (hc : link.connected = false) (ho : link.bus.nextOpen.1 = none)
    (body : Action Link α) :
    (within body link).trace = [.opened link.endpoint.bus true] ++ (upLogs link ++
      ((body link.opened).trace ++ (disconnect (body link.opened).state).trace)) := by
  rw [within_of_opened hc ho, followedBy_disconnect]
  rfl

theorem within_said (hc : link.connected = false) (ho : link.bus.nextOpen.1 = none)
    (body : Action Link α) :
    (within body link).trace.said = (body link.opened).trace.said := by
  rw [within_trace hc ho, Trace.said_append, Trace.said_append, Trace.said_append, disconnect_said,
    (onlyLogs_upLogs link).said, List.append_nil]
  rfl

theorem within_busEvents (hc : link.connected = false) (ho : link.bus.nextOpen.1 = none)
    {body : Action Link α} (hb : (body link.opened).state.connected = true) :
    (within body link).trace.busEvents =
      .opened link.endpoint.bus true :: (body link.opened).trace.busEvents ++ [.closed] := by
  rw [within_trace hc ho, Trace.busEvents_append, Trace.busEvents_append, Trace.busEvents_append,
    disconnect_busEvents hb, (onlyLogs_upLogs link).busEvents]
  rfl

end Within

/-- What an open connection hands to an operation. A call without a destination is not made. -/
def answer (link : Link) : Except Failure Value :=
  match link.endpoint.destination with
  | .ok _ => relay link.bus.nextReply.1
  | .error f => .error (.fault f)

theorem transport_result {link : Link} (hc : link.connected = true) (command : UInt8) (bs : Bytes) :
    (transport command bs link).result = link.answer := by
  unfold answer
  cases hn : link.endpoint.destination with
  | ok name => rw [transport_apply hc hn]
  | error f => rw [transport_of_unnamed hc hn]

theorem transport_said {link : Link} (hc : link.connected = true) (command : UInt8) (bs : Bytes) :
    (transport command bs link).trace.said = [] := by
  cases hn : link.endpoint.destination with
  | ok name => rw [transport_apply hc hn]; rfl
  | error f => rw [transport_of_unnamed hc hn]; rfl

end Link

namespace Operation

open Link

variable {op : Operation} {arg : Option Value} {link : Link}

theorem perform_result {m : Message} (hc : link.connected = true) (hr : op.request arg = .ok m) :
    (op.perform transport arg link).result = op.outcome link.answer := by
  obtain ⟨bs, _, he⟩ := encode_of_request hr
  rw [perform_apply hr he, transport_result hc]

theorem perform_said (op : Operation) (arg : Option Value) (hc : link.connected = true) :
    (op.perform transport arg link).trace.said = [] := by
  cases hr : op.request arg with
  | error e => rw [perform_of_refused hr]; rfl
  | ok m =>
    obtain ⟨bs, _, he⟩ := encode_of_request hr
    rw [perform_apply hr he]
    dsimp only
    rw [Trace.said_append, Trace.said_append, transport_said hc,
      (Trace.onlyLogs_logLines _ _).said, (Trace.onlyLogs_replyLines _).said]
    rfl

theorem perform_busEvents {m : Message} {bs : Bytes} {name : String} (hc : link.connected = true)
    (hn : link.endpoint.destination = .ok name) (hr : op.request arg = .ok m)
    (he : m.encode .request = .ok ⟨op.tag, bs⟩) :
    (op.perform transport arg link).trace.busEvents =
      [.sent (callOf link.endpoint name (.int op.command.number) bs)] ∧
    (op.perform transport arg link).state.connected = true := by
  rw [perform_apply hr he, transport_apply hc hn, op.toNat_tag]
  refine ⟨?_, hc⟩
  dsimp only
  rw [Trace.busEvents_append, Trace.busEvents_append, (Trace.onlyLogs_logLines _ _).busEvents,
    (Trace.onlyLogs_replyLines _).busEvents]
  rfl

theorem within_perform_busEvents {m : Message} {bs : Bytes} {name : String}
    (hc : link.connected = false) (ho : link.bus.nextOpen.1 = none)
    (hn : link.endpoint.destination = .ok name) (hr : op.request arg = .ok m)
    (he : m.encode .request = .ok ⟨op.tag, bs⟩) :
    (within (op.perform transport arg) link).trace.busEvents = [.opened link.endpoint.bus true,
      .sent (callOf link.endpoint name (.int op.command.number) bs), .closed] := by
  have hc' : link.opened.connected = true := rfl
  obtain ⟨hsent, hup⟩ := perform_busEvents hc' hn hr he
  rw [within_busEvents hc ho hup, hsent]
  rfl

end Operation

end MailboxControl
