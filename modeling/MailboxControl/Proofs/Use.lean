import MailboxControl.Step
import MailboxControl.Proofs.Codec
import MailboxControl.Proofs.Remainder

/-! A use of a transport in closed form. It packs a request and calls the transport once with it, or
it ends before the transport is called; either way it leaves the state as the transport did. -/

namespace MailboxControl

open MailboxControl.Action Exchange

namespace Exchange

variable {σ : Type} {transport : Transport σ} {request : Message} {expected : Value} {e : Failure}

theorem apply_of_not_expected (h : checkExpected expected = .error e) (s : σ) :
    exchange transport request expected s = ⟨.error e, s, []⟩ := by
  unfold exchange
  rw [h, lift_error_bind]

theorem apply_of_not_encoded (hx : checkExpected expected = .ok ())
    (h : request.encode .request = .error e) (s : σ) :
    exchange transport request expected s = ⟨.error e, s, []⟩ := by
  unfold exchange
  rw [hx, lift_ok_bind, h, lift_error_bind]

end Exchange

namespace Use

variable {σ : Type} {u : Use} {m : Message} {p : Packet}

/-- The request of a use, once what is asked for has been checked. -/
def request : Use → Except Failure Message
  | .exchange command args expected =>
    match checkExpected expected with
    | .ok () => .ok ⟨command, args⟩
    | .error e => .error e
  | .perform op arg => op.request arg

theorem request_exchange_eq_ok_iff {command args expected : Value} :
    (Use.exchange command args expected).request = .ok m ↔
      checkExpected expected = .ok () ∧ ⟨command, args⟩ = m := by
  unfold request
  cases hx : checkExpected expected <;> simp [hx]

def Packs (u : Use) (m : Message) (p : Packet) : Prop :=
  u.request = .ok m ∧ m.encode .request = .ok p

def conclude (u : Use) (command : UInt8) (reply : Except Failure Value) : Except Failure Yield :=
  match u with
  | .exchange _ _ expected => (settle command expected reply).map .reply
  | .perform op _ => (op.outcome reply).map .verdict

theorem run_of_packs (h : u.Packs m p) (transport : Transport σ) (s : σ) :
    let out := transport p.tag p.args s
    u.run transport s =
      ⟨u.conclude p.tag out.result, out.state,
        logLines .request m ++ (out.trace ++ replyLines (received p.tag out.result))⟩ := by
  intro out
  obtain ⟨hm, hp⟩ := h
  cases u with
  | exchange command args expected =>
    obtain ⟨hx, rfl⟩ := request_exchange_eq_ok_iff.mp hm
    rw [run, bind_pure_apply, apply_of_encode hx hp]
    rfl
  | perform op arg =>
    obtain ⟨bs, _, he⟩ := Operation.encode_of_request hm
    have hpacket : p = ⟨op.tag, bs⟩ := Except.ok.inj (hp.symm.trans he)
    subst hpacket
    rw [run, bind_pure_apply, Operation.perform_apply hm he]
    rfl

/-- A use that packs nothing ends with the same failure over any transport, and leaves it alone. -/
theorem packs_or_stops (u : Use) :
    (∃ m p, u.Packs m p) ∨
      ∃ e, ∀ (σ : Type) (transport : Transport σ) (s : σ), u.run transport s = ⟨.error e, s, []⟩ := by
  cases u with
  | exchange command args expected =>
    cases hx : checkExpected expected with
    | error e =>
      refine Or.inr ⟨e, fun σ transport s => ?_⟩
      rw [run, bind_pure_apply, apply_of_not_expected hx]
      rfl
    | ok _ =>
      cases he : Message.encode .request ⟨command, args⟩ with
      | ok p => exact Or.inl ⟨⟨command, args⟩, p, request_exchange_eq_ok_iff.mpr ⟨hx, rfl⟩, he⟩
      | error e =>
        refine Or.inr ⟨e, fun σ transport s => ?_⟩
        rw [run, bind_pure_apply, apply_of_not_encoded hx he]
        rfl
  | perform op arg =>
    cases hr : op.request arg with
    | ok m =>
      -- a request that an operation makes always packs
      obtain ⟨bs, _, he⟩ := Operation.encode_of_request hr
      exact Or.inl ⟨m, _, hr, he⟩
    | error e =>
      refine Or.inr ⟨e, fun σ transport s => ?_⟩
      rw [run, bind_pure_apply, Operation.perform_of_refused hr]
      rfl

/-- The transport is called, as one that shows its calls tells. -/
def Reaches (u : Use) : Prop := (u.run Script.transport []).trace.deliveries ≠ []

theorem Reaches.packs (h : u.Reaches) : ∃ m p, u.Packs m p := by
  rcases u.packs_or_stops with hp | ⟨e, he⟩
  · exact hp
  · rw [Reaches, he] at h
    exact absurd rfl h

theorem run_busEvents (h : u.Packs m p) (link : Link) :
    (u.run Link.transport link).trace.busEvents =
      (Link.transport p.tag p.args link).trace.busEvents := by
  rw [run_of_packs h]
  dsimp only
  rw [Trace.busEvents_append, Trace.busEvents_append, (Trace.onlyLogs_logLines _ _).busEvents,
    (Trace.onlyLogs_replyLines _).busEvents, List.nil_append, List.append_nil]

theorem run_state (u : Use) (link : Link) :
    (u.run Link.transport link).state = link.past (u.run Link.transport link).trace := by
  rcases u.packs_or_stops with ⟨m, p, h⟩ | ⟨e, he⟩
  · have hs : (u.run Link.transport link).state = (Link.transport p.tag p.args link).state := by
      rw [run_of_packs h]
    rw [hs, Link.transport_state, Link.past, Link.past, ← Bus.past_busEvents, ← run_busEvents h,
      Bus.past_busEvents]
  · rw [he]
    rfl

end Use

theorem Operation.perform_state (op : Operation) (arg : Option Value) (link : Link) :
    (op.perform Link.transport arg link).state =
      link.past (op.perform Link.transport arg link).trace := by
  have h := (Use.perform op arg).run_state link
  rw [Use.run, bind_pure_apply] at h
  exact h

end MailboxControl
