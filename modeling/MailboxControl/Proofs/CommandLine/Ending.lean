import MailboxControl.Proofs.CommandLine.Report

/-! How a command ends, whatever the daemon answers. Every body is refused as one of the client's own
errors or read as a verdict, except one: an infinite status is neither, and its fault leaves the
command with nothing said. -/

namespace MailboxControl

open MailboxControl.Action Exchange

/-- The next operation over the connection gets an infinite status. -/
def Link.Infinite (link : Link) : Prop :=
  link.endpoint.busName ≠ none ∧ InfiniteStatus link.bus.nextReply.1

namespace Operation

open Link

variable {op : Operation} {link : Link}

theorem outcome_answer_of_infinite (h : link.Infinite) (op : Operation) :
    op.outcome link.answer = .error (.fault .infiniteInteger) := by
  obtain ⟨hn, hi⟩ := h
  obtain ⟨name, hname⟩ := Endpoint.busName_ne_none_iff.mp hn
  simp only [answer, hname]
  exact outcome_relay_of_infinite hi op

theorem outcome_answer_error {e : Failure} (hf : link.bus.Foreign)
    (h : op.outcome link.answer = .error e) :
    e.Reported ∨ e = .fault .infiniteInteger ∧ link.Infinite := by
  unfold answer at h
  cases hn : link.endpoint.destination with
  | error f =>
    rw [hn] at h
    cases h
    exact Or.inl (Failure.reported_wrapped _ _)
  | ok name =>
    rw [hn] at h
    rcases outcome_relay_error (fun f => hf.nextReply) h with hr | ⟨he, hi⟩
    · exact Or.inl hr
    · exact Or.inr ⟨he, Endpoint.busName_ne_none_iff.mpr ⟨name, hn⟩, hi⟩

theorem request_error {extra : Option Value} {e : Failure}
    (hx : extra.isSome = true ↔ op = .resume) (h : op.request extra = .error e) :
    e.isClient = true := by
  cases extra with
  | none =>
    have hop : op ≠ .resume := fun hz => by simp [hz] at hx
    cases op with
    | resume => exact absurd rfl hop
    | _ => cases h
  | some v =>
    have hop : op = .resume := hx.mp rfl
    subst hop
    cases hp : ResumeFlag.parse v with
    | ok flag => simp [request, hp] at h
    | error f =>
      simp only [request, hp, Except.error.injEq] at h
      subst h
      rw [ResumeFlag.parse_error hp]
      rfl

/-- The request can be made, and its reply has an infinite status. -/
def Overflows (op : Operation) (extra : Option Value) (link : Link) : Prop :=
  (∃ m, op.request extra = .ok m) ∧ link.Infinite

theorem perform_of_overflows {extra : Option Value} (hc : link.connected = true)
    (h : op.Overflows extra link) :
    (op.perform transport extra link).result = .error (.fault .infiniteInteger) := by
  obtain ⟨⟨m, hr⟩, hi⟩ := h
  rw [perform_result hc hr, outcome_answer_of_infinite hi]

/-- An operation over an open connection ends with a verdict or with one of the client's own errors,
unless it overflows. -/
theorem perform_of_not_overflows {extra : Option Value} (hc : link.connected = true)
    (hf : link.bus.Foreign) (hx : extra.isSome = true ↔ op = .resume)
    (h : ¬ op.Overflows extra link) :
    (∃ v, (op.perform transport extra link).result = .ok v) ∨
      ∃ e, (op.perform transport extra link).result = .error e ∧ e.isClient = true := by
  cases hr : op.request extra with
  | error e =>
    rw [perform_of_refused hr]
    exact Or.inr ⟨e, rfl, request_error hx hr⟩
  | ok m =>
    rw [perform_result hc hr]
    cases ho : op.outcome link.answer with
    | ok v => exact Or.inl ⟨v, rfl⟩
    | error e =>
      rcases outcome_answer_error hf ho with he | ⟨_, hi⟩
      · exact Or.inr ⟨e, rfl, he.1⟩
      · exact absurd ⟨⟨m, hr⟩, hi⟩ h

end Operation

namespace CommandLine

variable {op : Operation} {arg : Value} {link : Link}

/-- The argument is read, the bus opens, and the reply has an infinite status. -/
def Overflows (op : Operation) (arg : Value) (link : Link) : Prop :=
  (∃ extra, argument op arg = .ok extra) ∧ link.bus.nextOpen.1 = none ∧ link.Infinite

theorem attempt_of_overflows (hc : link.connected = false) (h : Overflows op arg link) :
    (attempt op arg link).result = .error (.fault .infiniteInteger) := by
  obtain ⟨⟨extra, hx⟩, ho, hi⟩ := h
  have hopened : link.opened.Infinite := hi
  rw [attempt_result hx hc ho, Operation.outcome_answer_of_infinite hopened]

theorem attempt_of_not_overflows (hc : link.connected = false) (hf : link.bus.Foreign)
    (h : ¬ Overflows op arg link) :
    (∃ status args, (attempt op arg link).result = .ok (op.verdict status args)) ∨
      ∃ e, (attempt op arg link).result = .error e ∧ e.Reported := by
  cases hx : argument op arg with
  | error e =>
    rw [attempt_of_no_argument hx, (argument_error hx).2]
    exact Or.inr ⟨_, rfl, Failure.reported_validation _⟩
  | ok extra =>
    cases ho : link.bus.nextOpen.1 with
    | some e =>
      rw [attempt_of_refused hx hc ho]
      exact Or.inr ⟨_, rfl, Failure.reported_wrapped _ _⟩
    | none =>
      rw [attempt_result hx hc ho]
      have ha : link.opened.answer = link.answer := rfl
      rw [ha]
      cases hv : op.outcome link.answer with
      | ok v =>
        obtain ⟨status, args, rfl⟩ := Operation.outcome_eq_ok hv
        exact Or.inl ⟨status, args, rfl⟩
      | error e =>
        rcases Operation.outcome_answer_error hf hv with he | ⟨_, hi⟩
        · exact Or.inr ⟨e, rfl, he⟩
        · exact absurd ⟨⟨extra, hx⟩, ho, hi⟩ h

theorem line_isSaid (op : Operation) (status : UInt8) (args : Bytes) :
    (line op status args).isSaid = true := by
  unfold line
  split
  · split <;> rfl
  · rfl

/-- A command ends with an exit code after one line, and an operation over an open connection with a
verdict or one of the client's own errors, exactly unless the status of the reply is infinite. -/
theorem runCommand_ends (op : Operation) :
    (∀ (arg : Value) (link : Link), link.connected = false → link.bus.Foreign →
      let out := runCommand (.text op.keyword) arg link
      (¬ Overflows op arg link →
        ∃ n e, out.result = .ok (.whole n) ∧ e.isSaid = true ∧ out.trace.said = [e]) ∧
      (Overflows op arg link →
        out.result = .error (.fault .infiniteInteger) ∧ out.trace.said = [])) ∧
    ∀ (extra : Option Value) (link : Link), link.connected = true → link.bus.Foreign →
      (extra.isSome = true ↔ op = .resume) →
      let result := (op.perform Link.transport extra link).result
      (¬ op.Overflows extra link →
        (∃ v, result = .ok v) ∨ ∃ e, result = .error e ∧ e.isClient = true) ∧
      (op.Overflows extra link → result = .error (.fault .infiniteInteger)) := by
  refine ⟨fun arg link hc hf => ?_, fun extra link hc hf hx =>
    ⟨Operation.perform_of_not_overflows hc hf hx, Operation.perform_of_overflows hc⟩⟩
  rw [runCommand_keyword]
  refine ⟨fun h => ?_, fun h => carryOut_of_escape hc (attempt_of_overflows hc h) rfl⟩
  rcases attempt_of_not_overflows hc hf h with ⟨status, args, hv⟩ | ⟨e, he, hclient, n, _, hn⟩
  · obtain ⟨hr, hs⟩ := carryOut_of_read hc hv
    exact ⟨_, _, hr, line_isSaid op status args, hs⟩
  · obtain ⟨hr, hs⟩ := carryOut_of_problem hc he hclient hn
    exact ⟨n, _, hr, rfl, hs⟩

theorem runCommand_ends_nan :
    (∃ n e, (runCommand (.text "ping") .null (.toDaemon (.answering (.float .nan)))).result =
        .ok (.whole n) ∧ e.isSaid = true ∧
      (runCommand (.text "ping") .null (.toDaemon (.answering (.float .nan)))).trace.said = [e]) ∧
    ((∃ v, (Operation.ping.perform Link.transport none
        (Link.toDaemon (.answering (.float .nan))).opened).result = .ok v) ∨
      ∃ e, (Operation.ping.perform Link.transport none
        (Link.toDaemon (.answering (.float .nan))).opened).result = .error e ∧
        e.isClient = true) := by
  have hi : ¬ (Link.toDaemon (.answering (.float .nan))).Infinite := by
    rintro ⟨_, negative, args, bs, h, _⟩
    cases h
  have h := runCommand_ends .ping
  exact ⟨(h.1 .null (.toDaemon (.answering (.float .nan))) rfl (Bus.answering_foreign _)).1
      (fun hz => hi hz.2.2),
    (h.2 none (Link.toDaemon (.answering (.float .nan))).opened rfl (Bus.answering_foreign _)
      (by decide)).1 (fun hz => hi hz.2)⟩

/-- A daemon that answers a ping with an infinite status ends the command without an exit code. -/
theorem runCommand_ping_infinite :
    ¬ ∃ n, (runCommand (.text "ping") .null
      (.toDaemon (.answering (.float (.infinite false))))).result = .ok n := by
  rintro ⟨n, h⟩
  have hr : (runCommand (.text "ping") .null
      (.toDaemon (.answering (.float (.infinite false))))).result =
        .error (.fault .infiniteInteger) := by
    rfl
  rw [hr] at h
  cases h

end CommandLine

end MailboxControl
