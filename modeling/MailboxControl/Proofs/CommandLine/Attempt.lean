import MailboxControl.CommandLine.Run
import MailboxControl.Proofs.Flag
import MailboxControl.Proofs.Scope

/-! One operation carried out for an operator over a new connection. The argument decides whether the
bus is touched at all, and the reply decides how it ends. -/

namespace MailboxControl.CommandLine

open MailboxControl.Action Exchange Operation

theorem request_of_argument {op : Operation} {arg : Value} {extra : Option Value}
    (h : argument op arg = .ok extra) :
    ∃ m, op.request extra = .ok m ∧ m.encode .request = .ok ⟨op.tag, payload extra⟩ := by
  cases op with
  | resume =>
    cases hf : ResumeFlag.parse arg with
    | error e => simp [argument, hf, Except.map] at h
    | ok flag =>
      simp only [argument, hf, Except.map, Except.ok.injEq] at h
      subst h
      exact ⟨Message.ofResume flag, rfl, encode_ofResume flag⟩
  | _ =>
    cases h
    exact ⟨_, rfl, rfl⟩

theorem argument_error {op : Operation} {arg : Value} {e : Failure}
    (h : argument op arg = .error e) :
    op = .resume ∧ e = .validation (.resumeArgument arg) := by
  cases op with
  | resume =>
    cases hf : ResumeFlag.parse arg with
    | ok flag => simp [argument, hf, Except.map] at h
    | error f =>
      simp only [argument, hf, Except.map, Except.error.injEq] at h
      exact ⟨rfl, h ▸ ResumeFlag.parse_error hf⟩
  | _ => cases h

variable {op : Operation} {arg : Value} {link : Link}

theorem attempt_of_no_argument {e : Failure} (h : argument op arg = .error e) (link : Link) :
    attempt op arg link = ⟨.error e, link, []⟩ := by
  unfold attempt
  rw [h, lift_error_bind]

theorem attempt_of_argument {extra : Option Value} (h : argument op arg = .ok extra) (link : Link) :
    attempt op arg link = Link.within (op.perform Link.transport extra) link := by
  unfold attempt
  rw [h, lift_ok_bind]

theorem attempt_of_refused {extra : Option Value} {e : Failure} (h : argument op arg = .ok extra)
    (hc : link.connected = false) (ho : link.bus.nextOpen.1 = some e) :
    attempt op arg link = ⟨.error (.wrapped (.connecting link.endpoint.bus) e),
      { link with bus := link.bus.nextOpen.2 }, [.opened link.endpoint.bus false]⟩ := by
  rw [attempt_of_argument h, Link.within_of_refused hc ho]

theorem attempt_result {extra : Option Value} (h : argument op arg = .ok extra)
    (hc : link.connected = false) (ho : link.bus.nextOpen.1 = none) :
    (attempt op arg link).result = op.outcome link.opened.answer := by
  obtain ⟨m, hr, _⟩ := request_of_argument h
  rw [attempt_of_argument h, Link.within_result hc ho, perform_result rfl hr]

/-- Nothing is said to the operator while the operation goes on. -/
theorem attempt_said (op : Operation) (arg : Value) (hc : link.connected = false) :
    (attempt op arg link).trace.said = [] := by
  cases h : argument op arg with
  | error e => rw [attempt_of_no_argument h]; rfl
  | ok extra =>
    cases ho : link.bus.nextOpen.1 with
    | some e => rw [attempt_of_refused h hc ho]; rfl
    | none =>
      rw [attempt_of_argument h, Link.within_said hc ho]
      exact op.perform_said extra rfl

end MailboxControl.CommandLine
