import MailboxControl.Proofs.Connection
import MailboxControl.Proofs.Operation

/-! Operations over an open connection. The answer of the bus is a body with two fields, any other
body, or a failure; whatever fails below the client is wrapped once, and nothing but an infinite
status passes as a failure that is not the client's own. -/

namespace MailboxControl

open MailboxControl.Action Exchange

/-- Nothing that the bus raises is one of the client's own errors. -/
structure Bus.Foreign (bus : Bus) : Prop where
  opens : ∀ e, some e ∈ bus.opens → e.isClient = false
  closes : ∀ e, some e ∈ bus.closes → e.isClient = false
  replies : ∀ e, .raised e ∈ bus.replies → e.isClient = false

theorem Bus.Foreign.nextReply {bus : Bus} (h : bus.Foreign) {e : Failure}
    (he : bus.nextReply.1 = .error e) : e.isClient = false := by
  cases hr : bus.replies with
  | nil =>
    simp only [Bus.nextReply, hr, List.head?_nil, Except.error.injEq] at he
    exact he ▸ rfl
  | cons r rest =>
    simp only [Bus.nextReply, hr, List.head?_cons] at he
    cases r with
    | returned body => cases he
    | refused name => exact Except.error.inj he ▸ rfl
    | raised f => exact Except.error.inj he ▸ h.replies f (by simp [hr])

def Bus.answering (status : Value) : Bus := { replies := [.returned [status, .bytes []]] }

theorem Bus.answering_foreign (status : Value) : (answering status).Foreign where
  opens e h := by cases h
  closes e h := by cases h
  replies e h := by simp [answering] at h

/-- One of the client's own errors, with a negative exit code. -/
def Failure.Reported (e : Failure) : Prop :=
  e.isClient = true ∧ ∃ n : Int, n < 0 ∧ e.exitCode = .ok (.whole n)

namespace Failure

theorem exitCodeOfCause_neg (cause : Failure) : exitCodeOfCause cause < 0 := by
  unfold exitCodeOfCause
  split
  · split
    · omega
    · decide
  · decide

theorem reported_wrapped (stage : Stage) (cause : Failure) : (wrapped stage cause).Reported :=
  ⟨rfl, _, exitCodeOfCause_neg cause, rfl⟩

theorem reported_protocol (error : ProtocolError) : (protocol error).Reported :=
  ⟨rfl, -1, by decide, rfl⟩

theorem reported_validation (error : ValidationError) : (validation error).Reported :=
  ⟨rfl, -2, by decide, rfl⟩

end Failure

namespace Link

/-- What fails behind the connection reaches the caller of an operation wrapped once. -/
theorem wrap_wrapPost {f : Failure} (hf : f.isClient = false) (command : UInt8) :
    ∃ stage ∈ [Stage.posting, .requesting command],
      wrap command (wrapPost f) = .wrapped stage f := by
  unfold wrapPost
  split
  · exact ⟨.posting, by simp, rfl⟩
  · split
    · exact ⟨.posting, by simp, rfl⟩
    · exact ⟨.requesting command, by simp, by simp [wrap, hf]⟩

theorem wrap_reading {answer : Except Failure (List Value)} {e : Failure}
    (hf : ∀ f, answer = .error f → f.isClient = false) (h : reading answer = .error e)
    (command : UInt8) : ∃ stage cause, wrap command e = .wrapped stage cause := by
  unfold reading posted at h
  cases answer with
  | error f =>
    obtain ⟨stage, _, hw⟩ := wrap_wrapPost (hf f rfl) command
    exact ⟨stage, f, Except.error.inj h ▸ hw⟩
  | ok body =>
    cases hp : Value.pairOfItems body with
    | error f =>
      simp only [hp, Except.error.injEq] at h
      exact ⟨.posting, .fault f, h ▸ rfl⟩
    | ok pair =>
      obtain ⟨status, args⟩ := pair
      cases hb : args.toBytes with
      | ok bs => simp [hp, hb] at h
      | error f =>
        simp only [hp, hb, Except.error.injEq] at h
        exact ⟨.requesting command, .fault f, h ▸ rfl⟩

theorem reading_of_no_pair {body : List Value} {f : Fault}
    (h : Value.pairOfItems body = .error f) :
    reading (.ok body) = .error (.wrapped .posting (.fault f)) := by
  simp [reading, posted, h]

theorem pairOfItems_eq_ok {body : List Value} {pair : Value × Value}
    (h : Value.pairOfItems body = .ok pair) : body = [pair.1, pair.2] := by
  unfold Value.pairOfItems at h
  split at h
  · cases h
    rfl
  · cases h

theorem pairOfItems_of_length_ne {body : List Value} (h : body.length ≠ 2) :
    ∃ f, Value.pairOfItems body = .error f := by
  cases hp : Value.pairOfItems body with
  | error f => exact ⟨f, rfl⟩
  | ok pair =>
    rw [pairOfItems_eq_ok hp] at h
    exact absurd rfl h

theorem reading_eq_ok {answer : Except Failure (List Value)} {status : Value} {bs : Bytes}
    (h : reading answer = .ok (status, bs)) :
    ∃ args, answer = .ok [status, args] ∧ args.toBytes = .ok bs := by
  unfold reading posted at h
  cases answer with
  | error f => cases h
  | ok body =>
    cases hp : Value.pairOfItems body with
    | error f => simp [hp] at h
    | ok pair =>
      have hb := pairOfItems_eq_ok hp
      obtain ⟨status', args⟩ := pair
      cases ha : args.toBytes with
      | error f => simp [hp, ha] at h
      | ok bs' =>
        simp only [hp, ha, Except.ok.injEq, Prod.mk.injEq] at h
        obtain ⟨rfl, rfl⟩ := h
        exact ⟨args, by rw [hb], ha⟩

end Link

/-- A body of an infinite status and of something that gives bytes. -/
def InfiniteStatus (answer : Except Failure (List Value)) : Prop :=
  ∃ negative args bs, answer = .ok [.float (.infinite negative), args] ∧ args.toBytes = .ok bs

namespace Operation

open Link

theorem received_relay_of_ok {answer : Except Failure (List Value)} {status : Value} {bs : Bytes}
    (h : reading answer = .ok (status, bs)) (command : UInt8) :
    received command (relay answer) = decode status (.bytes bs) := by
  simp only [relay, h]
  rfl

theorem received_relay_of_error {answer : Except Failure (List Value)} {e : Failure}
    (h : reading answer = .error e) (command : UInt8) :
    received command (relay answer) = .error (wrap command e) := by
  simp only [relay, h]
  rfl

/-- An operation over an open connection ends with a verdict or with one of the client's own errors,
unless the status is infinite. -/
theorem outcome_relay_error {op : Operation} {answer : Except Failure (List Value)} {e : Failure}
    (hf : ∀ f, answer = .error f → f.isClient = false)
    (h : op.outcome (relay answer) = .error e) :
    e.Reported ∨ e = .fault .infiniteInteger ∧ InfiniteStatus answer := by
  cases hr : reading answer with
  | error f =>
    rw [outcome_of_not_received (received_relay_of_error hr op.tag)] at h
    obtain ⟨stage, cause, hw⟩ := wrap_reading hf hr op.tag
    exact Or.inl (Except.error.inj h ▸ hw ▸ Failure.reported_wrapped stage cause)
  | ok pair =>
    obtain ⟨status, bs⟩ := pair
    have hd := received_relay_of_ok hr op.tag
    cases hs : decode status (.bytes bs) with
    | error f =>
      rw [outcome_of_not_received (hd.trans hs), Except.error.injEq] at h
      subst h
      rcases decode_bytes_error hs with ⟨p, rfl⟩ | ⟨rfl, negative, rfl⟩
      · exact Or.inl (Failure.reported_protocol p)
      · obtain ⟨args, ha, hb⟩ := reading_eq_ok hr
        exact Or.inr ⟨rfl, negative, args, bs, ha, hb⟩
    | ok p =>
      rw [outcome_of_received (hd.trans hs)] at h
      split at h
      · exact Or.inl (Except.error.inj h ▸ Failure.reported_protocol _)
      · cases h

theorem outcome_relay_of_infinite {answer : Except Failure (List Value)} (h : InfiniteStatus answer)
    (op : Operation) : op.outcome (relay answer) = .error (.fault .infiniteInteger) := by
  obtain ⟨negative, args, bs, rfl, hb⟩ := h
  have hr : reading (.ok [.float (.infinite negative), args]) =
      .ok (.float (.infinite negative), bs) := by
    simp [reading, posted, Value.pairOfItems, hb]
  have hd := received_relay_of_ok hr op.tag
  exact outcome_of_not_received (hd.trans (decode_infinite negative bs))

end Operation

end MailboxControl
