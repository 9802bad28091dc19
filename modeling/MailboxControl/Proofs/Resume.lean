import MailboxControl.Proofs.CommandLine.Report
import MailboxControl.Proofs.Delivery
import MailboxControl.Proofs.Request
import MailboxControl.Proofs.Tool

/-! The byte that resuming sends. It is the one that the argument asks for, whoever was given the
argument and however often it has been read on the way, and an argument that asks for none keeps all
of them from sending. -/

namespace MailboxControl

open MailboxControl.Action

namespace Trace

/-- The calls put on the bus, in their order. -/
def sends (t : Trace) : List BusCall :=
  t.filterMap fun
    | .sent call => some call
    | _ => none

theorem sends_append (t u : Trace) : sends (t ++ u) = sends t ++ sends u := List.filterMap_append

theorem sends_busEvents (t : Trace) : sends (busEvents t) = sends t := by
  unfold sends busEvents
  rw [List.filterMap_filter]
  congr 1
  funext e
  cases e <;> rfl

theorem OnlyLogs.sends {t : Trace} (h : OnlyLogs t) : t.sends = [] := by
  rw [← sends_busEvents, h.busEvents]
  rfl

end Trace

namespace Link

variable {α : Type} {link : Link} {call : BusCall}

theorem connect_sends (link : Link) : (connect link).trace.sends = [] := by
  cases hc : link.connected with
  | true =>
    rw [connect_of_connected hc]
    rfl
  | false =>
    cases ho : link.bus.nextOpen.1 with
    | some e =>
      rw [connect_of_refused hc ho]
      rfl
    | none =>
      rw [connect_of_opened hc ho]
      rfl

theorem disconnect_sends (link : Link) : (disconnect link).trace.sends = [] := by
  cases hc : link.connected with
  | true =>
    rw [← Trace.sends_busEvents, disconnect_busEvents hc]
    rfl
  | false =>
    rw [disconnect_of_closed hc]
    rfl

/-- Opening and closing send nothing. -/
theorem within_sends {body : Action Link α} (h : call ∈ (within body link).trace.sends) :
    ∃ other, call ∈ (body other).trace.sends := by
  unfold within at h
  rw [bind_apply] at h
  cases hr : (connect link).result with
  | error e =>
    simp only [hr, connect_sends, List.not_mem_nil] at h
  | ok endpoint =>
    refine ⟨(connect link).state, ?_⟩
    simpa [hr, followedBy, Trace.sends_append, connect_sends, disconnect_sends] using h

theorem transport_sends {command : UInt8} {bs : Bytes}
    (h : call ∈ (transport command bs link).trace.sends) :
    call.command = .int command.toNat ∧ call.args = bs := by
  rw [transport_eq_call, ← Trace.sends_busEvents] at h
  rcases call_busEvents (.int command.toNat) (.bytes bs) link with he | ⟨request, ha, he⟩
  · rw [he] at h
    cases h
  · rw [he] at h
    obtain ⟨name, _, _, _, hbs, rfl⟩ := addressed_eq_ok ha
    cases hbs
    cases List.mem_singleton.mp h
    exact ⟨rfl, rfl⟩

end Link

/-- The call resumes the daemon with the flag that the value asks for. -/
structure BusCall.Carries (call : BusCall) (v : Value) : Prop where
  command : call.command = .int 4
  modified : call.args = [1] ↔ v.AsksFor .flashModified
  notModified : call.args = [0] ↔ v.AsksFor .notModified

namespace ResumeFlag

theorem byte_eq_iff {v : Value} {flag : ResumeFlag} (hp : parse v = .ok flag) (other : ResumeFlag) :
    [flag.byte] = [other.byte] ↔ v.AsksFor other := by
  rw [← parse_eq_ok_iff, hp, Except.ok.injEq, List.cons.injEq, and_iff_left rfl]
  exact ⟨byte_injective, congrArg byte⟩

theorem carries {v : Value} {flag : ResumeFlag} (hp : parse v = .ok flag) {call : BusCall}
    (h : call.command = .int 4 ∧ call.args = [flag.byte]) : call.Carries v where
  command := h.1
  modified := h.2 ▸ byte_eq_iff hp .flashModified
  notModified := h.2 ▸ byte_eq_iff hp .notModified

end ResumeFlag

namespace Operation

variable {σ : Type} {v : Value} {flag : ResumeFlag} {link : Link}

theorem perform_sends (hp : ResumeFlag.parse v = .ok flag) {call : BusCall}
    (h : call ∈ (resume.perform Link.transport (some v) link).trace.sends) :
    call.command = .int 4 ∧ call.args = [flag.byte] := by
  rw [perform_apply (request_of_flag hp) (encode_ofResume flag)] at h
  simp only [Trace.sends_append, (Trace.onlyLogs_logLines _ _).sends,
    (Trace.onlyLogs_replyLines _).sends, List.nil_append, List.append_nil] at h
  exact Link.transport_sends h

theorem perform_sent {name : String} (hp : ResumeFlag.parse v = .ok flag)
    (hc : link.connected = false) (ho : link.bus.nextOpen.1 = none)
    (hn : link.endpoint.destination = .ok name) :
    (Link.within (resume.perform Link.transport (some v)) link).trace.sends =
      [Link.callOf link.endpoint name (.int 4) [flag.byte]] := by
  rw [← Trace.sends_busEvents,
    within_perform_busEvents hc ho hn (request_of_flag hp) (encode_ofResume flag)]
  rfl

theorem perform_noting (hp : ResumeFlag.parse v = .ok flag) (transport : Transport σ) (s : σ)
    (calls : List Packet) :
    (resume.perform transport.noting (some v) (s, calls)).state =
      ((transport 4 [flag.byte] s).state, calls ++ [⟨4, [flag.byte]⟩]) := by
  rw [perform_apply (request_of_flag hp) (encode_ofResume flag)]
  rfl

end Operation

namespace CommandLine

variable {v : Value} {link : Link}

theorem runCommand_resume (v : Value) : runCommand (.text "resume") v = carryOut .resume v :=
  runCommand_keyword .resume v

theorem attempt_of_flag {flag : ResumeFlag} (hp : ResumeFlag.parse v = .ok flag) (link : Link) :
    attempt .resume v link =
      Link.within (Operation.resume.perform Link.transport (some (.code (.flag flag)))) link :=
  attempt_of_argument (by simp only [argument, hp, Except.map]) link

theorem attempt_of_not_isFlag (h : ¬ v.IsFlag) (link : Link) :
    attempt .resume v link = ⟨.error (.validation (.resumeArgument v)), link, []⟩ :=
  attempt_of_no_argument
    (by simp only [argument, ResumeFlag.parse_of_not_isFlag h, Except.map]) link

theorem runCommand_sends (v : Value) (link : Link) :
    (runCommand (.text "resume") v link).trace.sends = (attempt .resume v link).trace.sends := by
  rw [runCommand_resume, ← Trace.sends_busEvents, carryOut_busEvents, Trace.sends_busEvents]

theorem runCommand_carries {call : BusCall}
    (h : call ∈ (runCommand (.text "resume") v link).trace.sends) : call.Carries v := by
  rw [runCommand_sends] at h
  by_cases hv : v.IsFlag
  · obtain ⟨flag, hp⟩ := ResumeFlag.parse_of_isFlag hv
    -- the operation is given the flag, not the value that it was read from
    rw [attempt_of_flag hp] at h
    obtain ⟨other, ho⟩ := Link.within_sends h
    exact ResumeFlag.carries hp (Operation.perform_sends rfl ho)
  · rw [attempt_of_not_isFlag hv] at h
    cases h

theorem runCommand_sent {name : String} (hv : v.IsFlag) (hc : link.connected = false)
    (ho : link.bus.nextOpen.1 = none) (hn : link.endpoint.destination = .ok name) :
    ∃ call, (runCommand (.text "resume") v link).trace.sends = [call] := by
  obtain ⟨flag, hp⟩ := ResumeFlag.parse_of_isFlag hv
  rw [runCommand_sends, attempt_of_flag hp]
  exact ⟨_, Operation.perform_sent rfl hc ho hn⟩

theorem runCommand_of_not_isFlag (h : ¬ v.IsFlag) (link : Link) :
    let out := runCommand (.text "resume") v link
    out.result = .ok (.whole (-2)) ∧ out.trace.output = "" ∧ out.trace.busEvents = [] := by
  intro out
  have ha := attempt_of_not_isFlag h link
  have hout : out = _ := congrFun (runCommand_resume v) link
  rw [hout, carryOut_of_client (congrArg Outcome.result ha) rfl, ha, giveUp_apply]
  exact ⟨rfl, rfl, rfl⟩

end CommandLine

namespace Tool

variable {v : Value} {bus : Bus}

theorem fits_resume (v : Value) : Tool.resume.Fits (some v) := by simp [Fits]

theorem call_sends (v : Value) (bus : Bus) :
    (Tool.resume.call (some v) bus).trace.sends = (Tool.resume.scope (some v) bus).trace.sends := by
  rw [← Trace.sends_busEvents, call_busEvents (fits_resume v), Trace.sends_busEvents]

theorem call_carries {call : BusCall} (h : call ∈ (Tool.resume.call (some v) bus).trace.sends) :
    call.Carries v := by
  rw [call_sends] at h
  obtain ⟨other, ho⟩ := Link.within_sends h
  by_cases hv : v.IsFlag
  · obtain ⟨flag, hp⟩ := ResumeFlag.parse_of_isFlag hv
    exact ResumeFlag.carries hp (Operation.perform_sends hp ho)
  · rw [operation, Operation.perform_of_refused (Operation.request_of_not_isFlag hv)] at ho
    cases ho

theorem call_sent (hv : v.IsFlag) (ho : bus.nextOpen.1 = none) :
    ∃ call, (Tool.resume.call (some v) bus).trace.sends = [call] := by
  obtain ⟨flag, hp⟩ := ResumeFlag.parse_of_isFlag hv
  rw [call_sends]
  exact ⟨_, @Operation.perform_sent v flag (Link.toDaemon bus) _ hp rfl ho rfl⟩

theorem call_of_not_isFlag (h : ¬ v.IsFlag) (bus : Bus) :
    let out := Tool.resume.call (some v) bus
    (∃ e, out.result = .error e) ∧ out.trace.sends = [] := by
  intro out
  have hfits := fits_resume v
  have hsends : out.trace.sends = (Tool.resume.scope (some v) bus).trace.sends := call_sends v bus
  cases ho : bus.nextOpen.1 with
  | some e =>
    have hs := @Link.within_of_refused _ (Link.toDaemon bus) e rfl ho
      (Tool.resume.operation.perform Link.transport (some v))
    refine ⟨⟨_, congrArg Outcome.result (call_of_failure hfits (congrArg Outcome.result hs))⟩, ?_⟩
    rw [hsends, ← Trace.sends_busEvents, scope_of_unopened ho]
    rfl
  | none =>
    have hp := Operation.perform_of_refused (request_of_refused hfits h) Link.transport
      (Link.toDaemon bus).opened
    have hs : (Tool.resume.scope (some v) bus).result = .error (.validation (.resumeArgument v)) := by
      unfold scope
      rw [Link.within_result rfl ho, hp]
    refine ⟨⟨_, congrArg Outcome.result (call_of_failure hfits hs)⟩, ?_⟩
    rw [hsends, ← Trace.sends_busEvents, scope_of_refused hfits h ho]
    rfl

end Tool

namespace Operation

open CommandLine

variable {σ : Type}

/-- What an operation is asked for does not depend on how often its argument has been read. -/
theorem argument_bind_request (v : Value) :
    (argument .resume v).bind resume.request = resume.request (some v) := by
  cases hp : ResumeFlag.parse v with
  | error e => simp only [argument, request, hp, Except.map, Except.bind]
  | ok flag =>
    simp only [argument, request, hp, Except.map, Except.bind]
    rfl

/-- Notes change no verdict. -/
theorem perform_noting_result (v : Value) (transport : Transport σ) (s : σ) (calls : List Packet) :
    (resume.perform transport.noting (some v) (s, calls)).result =
      (resume.perform transport (some v) s).result := by
  by_cases hv : v.IsFlag
  · obtain ⟨flag, hp⟩ := ResumeFlag.parse_of_isFlag hv
    have hr := request_of_flag hp
    have he := encode_ofResume flag
    rw [perform_apply hr he, perform_apply hr he]
    rfl
  · have hr := request_of_not_isFlag hv
    rw [perform_of_refused hr, perform_of_refused hr]

theorem perform_handed (v : Value) (transport : Transport σ) (s : σ) (calls : List Packet)
    (flag : ResumeFlag) :
    (resume.perform transport.noting (some v) (s, calls)).state.2 =
      calls ++ [⟨4, [flag.byte]⟩] ↔ v.AsksFor flag := by
  by_cases hv : v.IsFlag
  · obtain ⟨given, hp⟩ := ResumeFlag.parse_of_isFlag hv
    rw [perform_noting hp, ← ResumeFlag.byte_eq_iff hp]
    simp
  · rw [perform_of_refused (request_of_not_isFlag hv)]
    constructor
    · intro h
      simp at h
    · intro h
      exact absurd ⟨flag, h⟩ (mt Value.isFlag_iff.mpr hv)

/-- A request to resume carries the byte that its argument asks for, however the client is used, and
is sent wherever it can be. An argument that asks for neither flag is refused before anything is sent,
and on the command line before the bus is touched. -/
theorem resume_carries (v : Value) :
    (∀ (σ : Type) (transport : Transport σ) (s : σ) (calls : List Packet),
      let out := resume.perform transport.noting (some v) (s, calls)
      out.result = (resume.perform transport (some v) s).result ∧
      (out.state.2 = calls ++ [⟨4, [1]⟩] ↔ v.AsksFor .flashModified) ∧
      (out.state.2 = calls ++ [⟨4, [0]⟩] ↔ v.AsksFor .notModified) ∧
      (¬ v.IsFlag → out = ⟨.error (.validation (.resumeArgument v)), (s, calls), []⟩)) ∧
    (∀ link : Link,
      let out := runCommand (.text "resume") v link
      (∀ call ∈ out.trace.sends, call.Carries v) ∧
      (v.IsFlag → link.connected = false → link.bus.nextOpen.1 = none →
        link.endpoint.busName ≠ none → ∃ call, out.trace.sends = [call]) ∧
      (¬ v.IsFlag → out.result = .ok (.whole (-2)) ∧ out.trace.output = "" ∧
        out.trace.busEvents = [])) ∧
    (∀ bus : Bus,
      let out := Tool.resume.call (some v) bus
      (∀ call ∈ out.trace.sends, call.Carries v) ∧
      (v.IsFlag → bus.nextOpen.1 = none → ∃ call, out.trace.sends = [call]) ∧
      (¬ v.IsFlag → (∃ e, out.result = .error e) ∧ out.trace.sends = [])) ∧
    (v.IsFlag ↔ ∃ flag, v.AsksFor flag) ∧
    (∀ flag, ResumeFlag.parse v = .ok flag →
      ResumeFlag.parse (.code (.flag flag)) = ResumeFlag.parse v) ∧
    (argument .resume v).bind resume.request = resume.request (some v) := by
  refine ⟨fun σ transport s calls =>
      ⟨perform_noting_result v transport s calls, ?_, ?_, fun h => ?_⟩,
    fun link => ⟨fun call => runCommand_carries, fun hv hc ho hn => ?_,
      fun h => runCommand_of_not_isFlag h link⟩,
    fun bus => ⟨fun call => Tool.call_carries, Tool.call_sent, fun h => Tool.call_of_not_isFlag h bus⟩,
    Value.isFlag_iff, fun flag hp => hp ▸ rfl, argument_bind_request v⟩
  · exact perform_handed v transport s calls .flashModified
  · exact perform_handed v transport s calls .notModified
  · exact perform_of_refused (request_of_not_isFlag h) transport.noting (s, calls)
  · obtain ⟨name, hname⟩ := Endpoint.busName_ne_none_iff.mp hn
    exact runCommand_sent hv hc ho hname

end Operation

end MailboxControl
