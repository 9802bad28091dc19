import MailboxControl.Proofs.Flag
import MailboxControl.Proofs.Scope

/-! Failures behind a scoped connection, as its user meets them. Whatever the bus fails with, when it
is opened or when a call is sent, is wrapped once, and its error number alone decides the exit code. -/

namespace MailboxControl

namespace Failure

/-- The failure that a failure of the transport keeps. -/
def cause? : Failure → Option Failure
  | wrapped _ cause => some cause
  | _ => none

/-- The failure that was being handled when this one took its place. A failure of the transport that
comes from outside took the place of none. -/
def replaced? : Failure → Option Failure
  | wrapped (.stated _) _ => none
  | wrapped _ cause => some cause
  | _ => none

/-- One of the client's own failures of the transport. -/
def IsTransport (x : Failure) : Prop := x.isClient = true ∧ x.isConnection = true

/-- The failure has an error number that is a positive integer. -/
def HasNumber (e : Failure) (n : Int) : Prop :=
  0 < n ∧ ∃ v, e.number? = some v ∧ v.integer? = some n

/-- A failure of the transport that stands for another one, with the exit code of its number. -/
structure Wraps (x cause : Failure) : Prop where
  transport : x.IsTransport
  kept : x.cause? = some cause
  replaced : x.replaced? = some cause
  numbered : ∀ n, cause.HasNumber n → x.exitCode = .ok (.whole (-n))
  unnumbered : (∀ n, ¬ cause.HasNumber n) → x.exitCode = .ok (.whole (-5))

theorem exitCodeOfCause_of_hasNumber {e : Failure} {n : Int} (h : e.HasNumber n) :
    exitCodeOfCause e = -n := by
  obtain ⟨hpos, v, hv, hn⟩ := h
  have hb : e.number?.bind Value.integer? = some n := by rw [hv]; exact hn
  simp only [exitCodeOfCause, hb, hpos, if_true]

theorem exitCodeOfCause_of_not_hasNumber {e : Failure} (h : ∀ n, ¬ e.HasNumber n) :
    exitCodeOfCause e = -5 := by
  cases hb : e.number?.bind Value.integer? with
  | none => simp only [exitCodeOfCause, hb, ioExitCode]
  | some n =>
    obtain ⟨v, hv, hn⟩ := Option.bind_eq_some_iff.mp hb
    have hpos : ¬ 0 < n := fun hpos => h n ⟨hpos, v, hv, hn⟩
    simp only [exitCodeOfCause, hb, hpos, if_false, ioExitCode]

theorem wraps_wrapped {stage : Stage} (h : ∀ text, stage ≠ .stated text) (cause : Failure) :
    (wrapped stage cause).Wraps cause where
  transport := ⟨rfl, rfl⟩
  kept := rfl
  replaced := by
    cases stage with
    | stated text => exact absurd rfl (h text)
    | _ => rfl
  numbered n hn := by rw [exitCode, exitCodeOfCause_of_hasNumber hn]
  unnumbered hn := by rw [exitCode, exitCodeOfCause_of_not_hasNumber hn]

theorem Wraps.exitCode_of_no_number {x cause : Failure} (h : x.Wraps cause)
    (hn : cause.number? = none) : x.exitCode = .ok (.whole (-5)) := by
  refine h.unnumbered fun n hnumber => ?_
  obtain ⟨_, v, hv, _⟩ := hnumber
  rw [hn] at hv
  cases hv

/-- A failure of the transport never ends a run with success. -/
theorem IsTransport.exitCode_neg {x : Failure} (h : x.IsTransport) :
    ∃ n < 0, x.exitCode = .ok (.whole n) := by
  obtain ⟨hclient, hconnection⟩ := h
  cases x with
  | unconnected => exact ⟨ioExitCode, by decide, rfl⟩
  | transport text => exact ⟨ioExitCode, by decide, rfl⟩
  | wrapped stage cause => exact ⟨_, exitCodeOfCause_neg cause, rfl⟩
  | system kind number text => cases hclient
  | _ => cases hconnection

end Failure

/-- What becomes of an operation whose call fails, is refused, or comes back in another shape: each
time one failure of the transport, with its cause. -/
structure FailsInto (answer : Except Failure (List Value)) (result : Except Failure Verdict) :
    Prop where
  failed : ∀ e, answer = .error e → e.isClient = false → ∃ x, result = .error x ∧ x.Wraps e
  refused : ∀ name, answer = .error (.busError name) →
    ∃ x, result = .error x ∧ x.Wraps (.busError name) ∧ x.exitCode = .ok (.whole (-5))
  misshapen : ∀ body, answer = .ok body → body.length ≠ 2 →
    ∃ x f, result = .error x ∧ x.Wraps (.fault f) ∧ f.family = .value ∧
      x.exitCode = .ok (.whole (-5))

namespace Operation

open Link

variable {op : Operation} {arg : Option Value}

theorem outcome_of_failed {e : Failure} (he : e.isClient = false) (op : Operation) :
    ∃ x, op.outcome (relay (.error e)) = .error x ∧ x.Wraps e := by
  obtain ⟨stage, hmem, hw⟩ := wrap_wrapPost he op.tag
  have hstage : ∀ text, stage ≠ .stated text := by
    rintro text rfl
    simp at hmem
  refine ⟨.wrapped stage e, ?_, Failure.wraps_wrapped hstage e⟩
  rw [outcome_of_not_received (received_relay_of_error rfl op.tag), hw]

theorem outcome_of_misshapen {body : List Value} (hlen : body.length ≠ 2) (op : Operation) :
    ∃ f, op.outcome (relay (.ok body)) = .error (.wrapped .posting (.fault f)) ∧
      f.family = .value := by
  obtain ⟨f, hp⟩ := pairOfItems_of_length_ne hlen
  refine ⟨f, ?_, pairOfItems_fault hp⟩
  rw [outcome_of_not_received (received_relay_of_error (reading_of_no_pair hp) op.tag)]
  rfl

theorem outcome_failsInto (op : Operation) (answer : Except Failure (List Value)) :
    FailsInto answer (op.outcome (relay answer)) where
  failed e ha he := by
    rw [ha]
    exact outcome_of_failed he op
  refused name ha := by
    rw [ha]
    obtain ⟨x, hx, hw⟩ := @outcome_of_failed (.busError name) rfl op
    exact ⟨x, hx, hw, hw.exitCode_of_no_number rfl⟩
  misshapen body ha hlen := by
    rw [ha]
    obtain ⟨f, hx, hf⟩ := outcome_of_misshapen hlen op
    have hw : (Failure.wrapped .posting (.fault f)).Wraps (.fault f) :=
      Failure.wraps_wrapped (by simp) (.fault f)
    exact ⟨_, f, hx, hw, hf, hw.exitCode_of_no_number rfl⟩

theorem perform_failsInto (h : op.Takes arg) {link : Link} (hc : link.connected = true)
    (hn : link.endpoint.busName ≠ none) :
    FailsInto link.bus.nextReply.1 (op.perform transport arg link).result := by
  obtain ⟨m, hr⟩ := request_of_takes h
  have ha : link.answer = relay link.bus.nextReply.1 := by
    obtain ⟨name, hname⟩ := Endpoint.busName_ne_none_iff.mp hn
    simp only [answer, hname]
  rw [perform_result hc hr, ha]
  exact op.outcome_failsInto link.bus.nextReply.1

/-- Whatever the bus fails with, in being opened or in a call, leaves a scoped connection as one
failure of the transport that keeps it, whoever met it first, and so do error replies and bodies of
another shape. The error number of what failed gives the exit code, and the exit code of a failure of
the transport is always negative. -/
theorem within_wraps (h : op.Takes arg) (bus : Bus) :
    let result := (within (op.perform transport arg) (toDaemon bus)).result
    (∀ e, bus.nextOpen.1 = some e → e.isClient = false → ∃ x, result = .error x ∧ x.Wraps e) ∧
    (bus.nextOpen.1 = none → FailsInto bus.nextReply.1 result) ∧
    (∀ link : Link, link.connected = true → link.endpoint.busName ≠ none →
      FailsInto link.bus.nextReply.1 (op.perform transport arg link).result) ∧
    ∀ x : Failure, x.IsTransport → ∃ n < 0, x.exitCode = .ok (.whole n) := by
  intro result
  refine ⟨fun e ho _ => ?_, fun ho => ?_, fun link hc hn => perform_failsInto h hc hn,
    fun x => Failure.IsTransport.exitCode_neg⟩
  · have hr : result = .error (.wrapped (.connecting (.text "SYSTEM")) e) :=
      congrArg Outcome.result (@within_of_refused _ (toDaemon bus) e rfl ho _)
    exact ⟨_, hr, Failure.wraps_wrapped (by simp) e⟩
  · have hr : result = (op.perform transport arg (toDaemon bus).opened).result :=
      @within_result _ (toDaemon bus) rfl ho _
    have hn : (toDaemon bus).opened.endpoint.busName ≠ none :=
      Option.some_ne_none Endpoint.daemonName
    rw [hr]
    exact perform_failsInto h rfl hn

/-- An error number may be given as a yes, and a closing that fails as well changes nothing. -/
theorem within_wraps_flagged :
    let cause := Failure.foreign "ConnectionLost" "gone" (some (.bool true))
    let bus : Bus := { closes := [some .exhausted], replies := [.raised cause] }
    resume.Takes (some (.text "1")) ∧
    ∃ x, (within (resume.perform transport (some (.text "1"))) (toDaemon bus)).result = .error x ∧
      x.Wraps cause ∧ x.exitCode = .ok (.whole (-1)) := by
  intro cause bus
  have h : resume.Takes (some (.text "1")) :=
    ⟨by decide, fun v hv => Option.some.inj hv ▸ Or.inr rfl⟩
  obtain ⟨x, hx, hw⟩ := ((within_wraps h bus).2.1 rfl).failed cause rfl rfl
  have hnumber : cause.HasNumber 1 := ⟨by decide, .bool true, rfl, rfl⟩
  exact ⟨h, x, hx, hw, hw.numbered 1 hnumber⟩

end Operation

end MailboxControl
