import MailboxControl.Proofs.Balance
import MailboxControl.Proofs.Scope

/-! What is left of a bus. An opening, a closing and a call each take the next item of their list, so
the items left are read off the events alone, whatever the items did. -/

namespace MailboxControl

open MailboxControl.Action

def Event.isOpened : Event → Bool
  | .opened _ _ => true
  | _ => false

def Event.isSent : Event → Bool
  | .sent _ => true
  | _ => false

theorem Trace.countP_busEvents {p : Event → Bool} (h : ∀ e, p e = true → busEvents [e] = [e])
    (t : Trace) : t.busEvents.countP p = t.countP p := by
  induction t with
  | nil => rfl
  | cons e t ih =>
    rw [show busEvents (e :: t) = busEvents [e] ++ busEvents t from busEvents_append [e] t,
      List.countP_append, ih, List.countP_cons]
    cases hp : p e with
    | true => simp [h e hp, hp, Nat.add_comm]
    | false =>
      -- the event may be dropped or kept, and is not counted either way
      have hnone : (busEvents [e]).countP p = 0 := by
        refine List.countP_eq_zero.mpr fun x hx => ?_
        rw [List.mem_singleton.mp (List.mem_filter.mp hx).1, hp]
        decide
      simp [hnone]

theorem Trace.countP_isClosed_busEvents (t : Trace) :
    t.busEvents.countP Event.isClosed = t.countP Event.isClosed := by
  refine countP_busEvents (fun e h => ?_) t
  cases e with
  | closed => rfl
  | _ => cases h

theorem Trace.balance_busEvents (t : Trace) : balance t.busEvents = balance t := by
  have hu : t.busEvents.countP Event.isUp = t.countP Event.isUp := by
    refine countP_busEvents (fun e h => ?_) t
    cases e with
    | opened name up => rfl
    | _ => cases h
  simp only [balance, hu, countP_isClosed_busEvents]

namespace Bus

/-- The items that are left after a trace. -/
def past (bus : Bus) (t : Trace) : Bus where
  opens := bus.opens.drop (t.countP Event.isOpened)
  closes := bus.closes.drop (t.countP Event.isClosed)
  replies := bus.replies.drop (t.countP Event.isSent)

theorem past_nil (bus : Bus) : bus.past [] = bus := rfl

theorem past_append (bus : Bus) (t u : Trace) : bus.past (t ++ u) = (bus.past t).past u := by
  simp only [past, List.countP_append, List.drop_drop]

theorem past_busEvents (bus : Bus) (t : Trace) : bus.past t.busEvents = bus.past t := by
  have ho : t.busEvents.countP Event.isOpened = t.countP Event.isOpened := by
    refine Trace.countP_busEvents (fun e h => ?_) t
    cases e with
    | opened name up => rfl
    | _ => cases h
  have hs : t.busEvents.countP Event.isSent = t.countP Event.isSent := by
    refine Trace.countP_busEvents (fun e h => ?_) t
    cases e with
    | sent call => rfl
    | _ => cases h
  simp only [past, ho, hs, t.countP_isClosed_busEvents]

theorem past_opened (bus : Bus) (name : BusAddress) (up : Bool) :
    bus.past [.opened name up] = bus.nextOpen.2 := by
  simp [past, nextOpen, Event.isOpened, Event.isClosed, Event.isSent]

theorem past_closed (bus : Bus) : bus.past [.closed] = bus.nextClose.2 := by
  simp [past, nextClose, Event.isOpened, Event.isClosed, Event.isSent]

theorem past_sent (bus : Bus) (call : BusCall) : bus.past [.sent call] = bus.nextReply.2 := by
  simp [past, nextReply, Event.isOpened, Event.isClosed, Event.isSent]

end Bus

namespace Link

theorem connect_bus (link : Link) :
    (connect link).state.bus = link.bus.past (connect link).trace := by
  rw [← Bus.past_busEvents]
  cases hc : link.connected with
  | true => rw [connect_of_connected hc]; rfl
  | false =>
    cases ho : link.bus.nextOpen.1 with
    | none =>
      rw [connect_of_opened hc ho]
      exact (link.bus.past_opened _ _).symm
    | some e =>
      rw [connect_of_refused hc ho]
      exact (link.bus.past_opened _ _).symm

theorem disconnect_bus (link : Link) :
    (disconnect link).state.bus = link.bus.past (disconnect link).trace := by
  rw [← Bus.past_busEvents]
  cases hc : link.connected with
  | true =>
    rw [disconnect_busEvents hc, disconnect_of_connected hc]
    exact link.bus.past_closed.symm
  | false => rw [disconnect_of_closed hc]; rfl

theorem within_bus {α : Type} {body : Action Link α}
    (hb : ∀ link, (body link).state.bus = link.bus.past (body link).trace) (link : Link) :
    (within body link).state.bus = link.bus.past (within body link).trace := by
  unfold within
  rw [bind_apply]
  cases hr : (connect link).result with
  | error e => exact connect_bus link
  | ok endpoint =>
    simp only [Outcome.after_state, Outcome.after_trace, followedBy]
    rw [disconnect_bus, hb, connect_bus, Bus.past_append, Bus.past_append]

/-- The connection that is left after a trace without an opening or a closing. -/
def past (link : Link) (t : Trace) : Link := { link with bus := link.bus.past t }

theorem past_append (link : Link) (t u : Trace) : link.past (t ++ u) = (link.past t).past u := by
  simp only [past, Bus.past_append]

theorem call_state (command args : Value) (link : Link) :
    (call command args link).state = link.past (call command args link).trace := by
  rw [call_eq]
  cases link.addressed command args with
  | error e => rfl
  | ok request => exact congrArg (fun bus => { link with bus := bus }) (link.bus.past_sent _).symm

theorem transport_state (command : UInt8) (bs : Bytes) (link : Link) :
    (transport command bs link).state = link.past (transport command bs link).trace := by
  rw [transport_eq_call]
  exact call_state _ _ link

end Link

end MailboxControl
