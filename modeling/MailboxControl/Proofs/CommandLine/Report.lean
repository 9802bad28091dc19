import MailboxControl.Proofs.CommandLine.Attempt

/-! What is said about an operation once the connection is closed. Every outcome that is the client's
own is said in one line, and saying it leaves the bus alone. -/

namespace MailboxControl.CommandLine

open MailboxControl.Action Operation

/-- The line about a reply that was read. -/
def line (op : Operation) (status : UInt8) (args : Bytes) : Event :=
  if op = .status then
    if status = 0 then .printed ("Daemon Status: " ++ (stateOf args).label)
    else .complained ("Status: " ++ (Value.int status.toNat).phrase)
  else .printed (op.title ++ ": " ++ (Value.int status.toNat).phrase)

/-- The diagnostic about an operation that was given up. -/
def diagnostic (op : Operation) (e : Failure) : String :=
  "Failed to send " ++ op.label ++ " command: " ++ e.message

theorem title_eq_status_iff (op : Operation) : op.title = Operation.status.title ↔ op = .status := by
  cases op <;> decide

/-- A successful status always comes with a state, so there is always a line. -/
theorem report_verdict {σ : Type} (op : Operation) (status : UInt8) (args : Bytes) (s : σ) :
    report (op.verdict status args) s =
      ⟨.ok (.whole (-status.toNat)), s, [line op status args]⟩ := by
  have hx : (op.verdict status args).exitCode.mapError Failure.fault =
      .ok (.whole (-status.toNat)) := rfl
  unfold report line
  by_cases hop : op = .status
  · subst hop
    have ht : (Operation.status.verdict status args).operation = Operation.status.title := rfl
    rw [if_pos ht, if_pos rfl]
    by_cases hs : status = 0
    · -- the only place where a label is asked for, and the verdict has a state there
      subst hs
      rfl
    · have hk : ¬ (Operation.status.verdict status args).ok = true :=
        fun hz => hs ((ok_mk_iff _ status _).mp hz)
      rw [if_neg hk, if_neg hs, emit_bind, hx]
      rfl
  · have ht : ¬ (op.verdict status args).operation = Operation.status.title :=
      fun hz => hop ((title_eq_status_iff op).mp hz)
    rw [if_neg ht, if_neg hop, emit_bind, hx]
    rfl

theorem giveUp_apply (op : Operation) (e : Failure) (link : Link) :
    giveUp op e link =
      ⟨e.exitCode.mapError .fault, link,
        [.logged ⟨.debug, .commandLine, op.label ++ " command failed"⟩,
          .complained (diagnostic op e)]⟩ := by
  unfold giveUp
  rw [log_bind, emit_bind]
  rfl

variable {op : Operation} {arg : Value} {link : Link}

theorem carryOut_apply (op : Operation) (arg : Value) (link : Link) :
    let tried := attempt op arg link
    carryOut op arg link =
      match tried.result with
      | .ok v => (report v tried.state).after tried.trace
      | .error e =>
        if e.isClient then (giveUp op e tried.state).after tried.trace
        else ⟨.error e, tried.state, tried.trace⟩ := by
  intro tried
  unfold carryOut
  rw [bind_apply, rescue_apply, map_apply]
  cases tried.result with
  | ok v => simp only [tried, Except.map]
  | error e => cases he : e.isClient <;> simp [tried, Except.map, he]

theorem carryOut_of_verdict {v : Verdict} (h : (attempt op arg link).result = .ok v) :
    carryOut op arg link =
      (report v (attempt op arg link).state).after (attempt op arg link).trace := by
  simp only [carryOut_apply, h]

theorem carryOut_of_client {e : Failure} (h : (attempt op arg link).result = .error e)
    (he : e.isClient = true) :
    carryOut op arg link =
      (giveUp op e (attempt op arg link).state).after (attempt op arg link).trace := by
  simp only [carryOut_apply, h, he, if_true]

theorem carryOut_of_other {e : Failure} (h : (attempt op arg link).result = .error e)
    (he : e.isClient = false) :
    carryOut op arg link =
      ⟨.error e, (attempt op arg link).state, (attempt op arg link).trace⟩ := by
  simp [carryOut_apply, h, he]

theorem report_busEvents (v : Verdict) (link : Link) : (report v link).trace.busEvents = [] := by
  unfold report
  split
  · split
    · cases hl : v.state.label <;> simp [Trace.busEvents]
    · simp [Trace.busEvents]
  · simp [Trace.busEvents]

theorem carryOut_busEvents (op : Operation) (arg : Value) (link : Link) :
    (carryOut op arg link).trace.busEvents = (attempt op arg link).trace.busEvents := by
  cases h : (attempt op arg link).result with
  | ok v =>
    rw [carryOut_of_verdict h, Outcome.after_trace, Trace.busEvents_append, report_busEvents,
      List.append_nil]
  | error e =>
    cases he : e.isClient with
    | true =>
      rw [carryOut_of_client h he, giveUp_apply, Outcome.after_trace, Trace.busEvents_append]
      exact List.append_nil _
    | false => rw [carryOut_of_other h he]

section Said

variable (hc : link.connected = false)

include hc

theorem carryOut_of_read {status : UInt8} {args : Bytes}
    (h : (attempt op arg link).result = .ok (op.verdict status args)) :
    (carryOut op arg link).result = .ok (.whole (-status.toNat)) ∧
      (carryOut op arg link).trace.said = [line op status args] := by
  rw [carryOut_of_verdict h, report_verdict]
  refine ⟨rfl, ?_⟩
  rw [Outcome.after_trace, Trace.said_append, attempt_said op arg hc]
  unfold line
  split
  · split <;> rfl
  · rfl

theorem carryOut_of_problem {e : Failure} {n : Number}
    (h : (attempt op arg link).result = .error e) (he : e.isClient = true)
    (hx : e.exitCode = .ok n) :
    (carryOut op arg link).result = .ok n ∧
      (carryOut op arg link).trace.said = [.complained (diagnostic op e)] := by
  rw [carryOut_of_client h he, giveUp_apply, hx]
  refine ⟨rfl, ?_⟩
  rw [Outcome.after_trace, Trace.said_append, attempt_said op arg hc]
  rfl

theorem carryOut_of_escape {e : Failure} (h : (attempt op arg link).result = .error e)
    (he : e.isClient = false) :
    (carryOut op arg link).result = .error e ∧ (carryOut op arg link).trace.said = [] := by
  rw [carryOut_of_other h he]
  exact ⟨rfl, attempt_said op arg hc⟩

end Said

theorem runCommand_keyword (op : Operation) (arg : Value) :
    runCommand (.text op.keyword) arg = carryOut op arg := by
  cases op <;> rfl

end MailboxControl.CommandLine
