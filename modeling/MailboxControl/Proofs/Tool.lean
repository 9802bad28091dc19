import MailboxControl.Tool
import MailboxControl.Proofs.Flag
import MailboxControl.Proofs.Lifecycle
import MailboxControl.Proofs.Use

/-! Tool calls on one bus. A call opens a bus of its own and closes it before it is over, and what it
leaves of the items is read off its events, so every call of a sequence goes as it would go alone. -/

namespace MailboxControl

open MailboxControl.Action

namespace Tool

variable {t : Tool} {arg : Option Value} {bus : Bus}

/-- An argument is given exactly where there is a parameter for it. -/
def Fits (t : Tool) (arg : Option Value) : Prop := arg.isSome = true ↔ t = .resume

instance (t : Tool) (arg : Option Value) : Decidable (t.Fits arg) :=
  inferInstanceAs (Decidable (arg.isSome = true ↔ t = .resume))

theorem checkArgument_of_fits (h : t.Fits arg) : t.checkArgument arg = .ok () := by
  cases arg with
  | none =>
    have ht : t ≠ .resume := fun hr => by simpa using h.mpr hr
    cases t with
    | resume => exact absurd rfl ht
    | _ => rfl
  | some v =>
    have ht : t = .resume := h.mp rfl
    subst ht
    rfl

theorem checkArgument_of_not_fits (h : ¬ t.Fits arg) : ∃ f, t.checkArgument arg = .error f := by
  cases arg with
  | none =>
    cases t with
    | resume => exact ⟨_, rfl⟩
    | _ => exact absurd (by simp [Fits]) h
  | some v =>
    cases t with
    | resume => exact absurd (by simp [Fits]) h
    | _ => exact ⟨_, rfl⟩

def scope (t : Tool) (arg : Option Value) (bus : Bus) : Outcome Link Verdict :=
  Link.within (t.operation.perform Link.transport arg) (.toDaemon bus)

theorem call_of_not_fits (h : ¬ t.Fits arg) (bus : Bus) :
    ∃ f, t.call arg bus = ⟨.error (.fault f), bus, []⟩ := by
  obtain ⟨f, hf⟩ := checkArgument_of_not_fits h
  refine ⟨f, ?_⟩
  unfold call
  rw [hf]
  exact lift_error_bind _ _ bus

theorem onBus_scope (t : Tool) (arg : Option Value) (bus : Bus) :
    Link.onBus .system (Link.within (t.operation.perform Link.transport arg)) bus =
      ⟨(t.scope arg bus).result, (t.scope arg bus).state.bus, (t.scope arg bus).trace⟩ := rfl

theorem call_of_verdict {v : Verdict} (h : t.Fits arg) (hv : (t.scope arg bus).result = .ok v) :
    t.call arg bus = ⟨v.summary.mapError .fault, (t.scope arg bus).state.bus,
      (t.scope arg bus).trace ++ [.logged ⟨.info, .tools, v.operation ++ ": " ++ v.message⟩]⟩ := by
  have hs := onBus_scope t arg bus
  rw [hv] at hs
  unfold call
  rw [checkArgument_of_fits h, mapError_ok, lift_ok_bind, bind_of_ok hs, log_bind]
  rfl

theorem call_of_failure {e : Failure} (h : t.Fits arg) (he : (t.scope arg bus).result = .error e) :
    t.call arg bus = ⟨.error e, (t.scope arg bus).state.bus, (t.scope arg bus).trace⟩ := by
  have hs := onBus_scope t arg bus
  rw [he] at hs
  unfold call
  rw [checkArgument_of_fits h, mapError_ok, lift_ok_bind]
  exact bind_of_error hs _

theorem call_busEvents (h : t.Fits arg) (bus : Bus) :
    (t.call arg bus).trace.busEvents = (t.scope arg bus).trace.busEvents := by
  cases hr : (t.scope arg bus).result with
  | ok v =>
    rw [call_of_verdict h hr]
    exact (Trace.busEvents_append _ _).trans (List.append_nil _)
  | error e => rw [call_of_failure h hr]

theorem call_scope_bus (h : t.Fits arg) (bus : Bus) :
    (t.call arg bus).state = (t.scope arg bus).state.bus := by
  cases hr : (t.scope arg bus).result with
  | ok v => rw [call_of_verdict h hr]
  | error e => rw [call_of_failure h hr]

/-- A call takes the items that its events tell of, and no others. -/
theorem call_state (t : Tool) (arg : Option Value) (bus : Bus) :
    (t.call arg bus).state = bus.past (t.call arg bus).trace := by
  by_cases h : t.Fits arg
  · have hs : (t.scope arg bus).state.bus = bus.past (t.scope arg bus).trace :=
      Link.within_bus (fun link => by rw [Operation.perform_state]; rfl) (.toDaemon bus)
    rw [call_scope_bus h, hs, ← Bus.past_busEvents, ← call_busEvents h, Bus.past_busEvents]
  · obtain ⟨f, hf⟩ := call_of_not_fits h bus
    rw [hf, Bus.past_nil]

theorem scope_of_unopened {e : Failure} (ho : bus.nextOpen.1 = some e) :
    (t.scope arg bus).trace.busEvents = [.opened (.text "SYSTEM") false] := by
  unfold scope
  rw [Link.within_of_refused rfl ho]
  rfl

theorem operation_eq_resume_iff (t : Tool) : t.operation = .resume ↔ t = .resume := by
  cases t <;> decide

theorem request_of_refused {v : Value} (h : t.Fits (some v)) (hv : ¬ v.IsFlag) :
    t.operation.request (some v) = .error (.validation (.resumeArgument v)) := by
  have ht : t = .resume := h.mp rfl
  subst ht
  exact Operation.request_of_not_isFlag hv

theorem request_of_flag (h : t.Fits arg) (hv : ∀ v, arg = some v → v.IsFlag) :
    ∃ m, t.operation.request arg = .ok m :=
  Operation.request_of_takes ⟨h.trans t.operation_eq_resume_iff.symm, hv⟩

theorem scope_of_refused {v : Value} (h : t.Fits (some v)) (hv : ¬ v.IsFlag)
    (ho : bus.nextOpen.1 = none) :
    (t.scope (some v) bus).trace.busEvents = [.opened (.text "SYSTEM") true, .closed] := by
  have hp := Operation.perform_of_refused (request_of_refused h hv) Link.transport
    (Link.toDaemon bus).opened
  have hc : (t.operation.perform Link.transport (some v) (Link.toDaemon bus).opened).state.connected
      = true := by rw [hp]; rfl
  unfold scope
  rw [Link.within_busEvents rfl ho hc, hp]
  rfl

def sends (t : Tool) (bs : Bytes) : BusCall :=
  ⟨"org.openbmc.mboxd", "/org/openbmc/mboxd", some "org.openbmc.mboxd", "cmd", "yay",
    .int t.operation.command.number, bs⟩

theorem scope_of_flag (h : t.Fits arg) (hv : ∀ v, arg = some v → v.IsFlag)
    (ho : bus.nextOpen.1 = none) :
    ∃ bs, (t.scope arg bus).trace.busEvents =
      [.opened (.text "SYSTEM") true, .sent (t.sends bs), .closed] := by
  obtain ⟨m, hr⟩ := request_of_flag h hv
  obtain ⟨bs, _, he⟩ := Operation.encode_of_request hr
  have hn : (Link.toDaemon bus).endpoint.destination = .ok Endpoint.daemonName := rfl
  unfold scope
  rw [Operation.within_perform_busEvents rfl ho hn hr he]
  exact ⟨bs, rfl⟩

/-- What a call does on the bus. A call with a missing or a surplus argument is none. -/
structure Scoped (t : Tool) (arg : Option Value) (bus : Bus) (shown : Trace) : Prop where
  misused : ¬ t.Fits arg → shown.busEvents = []
  unopened : t.Fits arg → ∀ e, bus.nextOpen.1 = some e →
    shown.busEvents = [.opened (.text "SYSTEM") false]
  refused : ∀ v, arg = some v → t.Fits arg → ¬ v.IsFlag → bus.nextOpen.1 = none →
    shown.busEvents = [.opened (.text "SYSTEM") true, .closed]
  done : t.Fits arg → (∀ v, arg = some v → v.IsFlag) → bus.nextOpen.1 = none →
    ∃ bs, shown.busEvents = [.opened (.text "SYSTEM") true, .sent (t.sends bs), .closed]
  closed : shown.balance = 0

theorem call_balance (t : Tool) (arg : Option Value) (bus : Bus) :
    (t.call arg bus).trace.balance = 0 := by
  by_cases h : t.Fits arg
  · rw [← Trace.balance_busEvents, call_busEvents h, Trace.balance_busEvents]
    exact Link.within_balance (fun link => t.operation.perform_tracks arg link) rfl
  · obtain ⟨f, hf⟩ := call_of_not_fits h bus
    rw [hf]
    rfl

theorem call_scoped (t : Tool) (arg : Option Value) (bus : Bus) :
    Scoped t arg bus (t.call arg bus).trace where
  misused h := by
    obtain ⟨f, hf⟩ := call_of_not_fits h bus
    rw [hf]
    rfl
  unopened h e ho := by rw [call_busEvents h, scope_of_unopened ho]
  refused v hv h hf ho := by
    subst hv
    rw [call_busEvents h, scope_of_refused h hf ho]
  done h hv ho := by
    rw [call_busEvents h]
    exact scope_of_flag h hv ho
  closed := t.call_balance arg bus

def shown (outs : List (Outcome Bus Summary)) : Trace := outs.flatMap fun out => out.trace

/-- Every call of a sequence goes as it goes alone on a bus with the items that the calls before it
have left, whatever these did, and leaves no bus open. -/
theorem callAll_alone (calls : List (Tool × Option Value)) (bus : Bus) :
    let outs := callAll calls bus
    outs.length = calls.length ∧ ∀ i t arg, calls[i]? = some (t, arg) →
      let left := bus.past (shown (outs.take i))
      ∃ out, outs[i]? = some out ∧ callAll [(t, arg)] left = [out] ∧ Scoped t arg left out.trace := by
  induction calls generalizing bus with
  | nil => exact ⟨rfl, fun i t arg h => by simp at h⟩
  | cons c rest ih =>
    obtain ⟨t, arg⟩ := c
    obtain ⟨hlen, hrest⟩ := ih (t.call arg bus).state
    refine ⟨by simp [callAll, hlen], fun i u v h => ?_⟩
    cases i with
    | zero =>
      simp only [List.getElem?_cons_zero, Option.some.injEq, Prod.mk.injEq] at h
      obtain ⟨rfl, rfl⟩ := h
      exact ⟨t.call arg bus, rfl, rfl, t.call_scoped arg bus⟩
    | succ i =>
      have hshown : shown ((callAll ((t, arg) :: rest) bus).take (i + 1)) =
          (t.call arg bus).trace ++ shown ((callAll rest (t.call arg bus).state).take i) := rfl
      -- the rest starts on the bus that the first call has left, as its events tell
      rw [hshown, Bus.past_append, ← t.call_state arg bus]
      exact hrest i u v h

end Tool

end MailboxControl
