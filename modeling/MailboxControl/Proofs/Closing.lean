import MailboxControl.Proofs.CommandLine.View
import MailboxControl.Proofs.Request
import MailboxControl.Proofs.Tool

/-! Closings that fail. Two buses that differ in nothing but what closings do are told apart by no
result and by no event on the bus, whatever is run on them; all that a failing close leaves behind is
a warning in the log. -/

namespace MailboxControl

open MailboxControl.Action

def Event.isWarning : Event → Bool
  | .logged r => r.level == .warning
  | _ => false

namespace Trace

/-- The trace without its warnings. -/
def unwarned (t : Trace) : Trace := t.filter fun e => !e.isWarning

theorem unwarned_append (t u : Trace) : unwarned (t ++ u) = unwarned t ++ unwarned u :=
  List.filter_append t u

theorem busEvents_unwarned (t : Trace) : t.unwarned.busEvents = t.busEvents := by
  unfold unwarned busEvents
  rw [List.filter_filter]
  congr 1
  funext e
  cases e <;> simp [Event.isWarning]

theorem said_unwarned (t : Trace) : t.unwarned.said = t.said := by
  unfold unwarned said
  rw [List.filter_filter]
  congr 1
  funext e
  cases e <;> simp [Event.isWarning, Event.isSaid]

end Trace

/-- The same result, related states, and traces that differ in warnings only. -/
structure Outcome.Matches {σ α : Type} (R : σ → σ → Prop) (out other : Outcome σ α) : Prop where
  result : out.result = other.result
  state : R out.state other.state
  trace : out.trace.unwarned = other.trace.unwarned

namespace Action

variable {σ α β : Type} {R : σ → σ → Prop} {x : Action σ α}

/-- The action does not tell related states apart. -/
def Blind (R : σ → σ → Prop) (x : Action σ α) : Prop :=
  ∀ s other, R s other → (x s).Matches R (x other)

theorem blind_lift (r : Except Failure α) : (lift r : Action σ α).Blind R :=
  fun _ _ h => ⟨rfl, h, rfl⟩

theorem blind_pure (a : α) : (pure a : Action σ α).Blind R := fun _ _ h => ⟨rfl, h, rfl⟩

theorem blind_fail (e : Failure) : (fail e : Action σ α).Blind R := fun _ _ h => ⟨rfl, h, rfl⟩

theorem blind_emit (e : Event) : (emit e : Action σ Unit).Blind R := fun _ _ h => ⟨rfl, h, rfl⟩

theorem Blind.bind {f : α → Action σ β} (hx : x.Blind R) (hf : ∀ a, (f a).Blind R) :
    (x >>= f).Blind R := by
  intro s other h
  obtain ⟨hr, hs, ht⟩ := hx s other h
  rw [bind_apply, bind_apply, ← hr]
  cases (x s).result with
  | error e => exact ⟨rfl, hs, ht⟩
  | ok a =>
    obtain ⟨hr', hs', ht'⟩ := hf a _ _ hs
    refine ⟨hr', hs', ?_⟩
    simp only [Outcome.after_trace, Trace.unwarned_append, ht, ht']

theorem Blind.map (hx : x.Blind R) (f : α → β) : (f <$> x).Blind R :=
  hx.bind fun a => blind_pure (f a)

theorem Blind.mapFailure (hx : x.Blind R) (f : Failure → Failure) : (x.mapFailure f).Blind R := by
  intro s other h
  obtain ⟨hr, hs, ht⟩ := hx s other h
  rw [mapFailure_apply, mapFailure_apply, hr]
  exact ⟨rfl, hs, ht⟩

theorem Blind.rescue {handler : Failure → Action σ α} (hx : x.Blind R)
    (hh : ∀ e, (handler e).Blind R) : (x.rescue handler).Blind R := by
  intro s other h
  obtain ⟨hr, hs, ht⟩ := hx s other h
  rw [rescue_apply, rescue_apply, ← hr]
  cases (x s).result with
  | ok a => exact ⟨rfl, hs, ht⟩
  | error e =>
    obtain ⟨hr', hs', ht'⟩ := hh e _ _ hs
    refine ⟨hr', hs', ?_⟩
    simp only [Outcome.after_trace, Trace.unwarned_append, ht, ht']

theorem Blind.followedBy {last : Action σ Unit} (hx : x.Blind R) (hl : last.Blind R) :
    (x.followedBy last).Blind R := by
  intro s other h
  obtain ⟨hr, hs, ht⟩ := hx s other h
  obtain ⟨hr', hs', ht'⟩ := hl _ _ hs
  refine ⟨?_, hs', ?_⟩
  · simp only [Action.followedBy, hr, hr']
  · simp only [Action.followedBy, Trace.unwarned_append, ht, ht']

end Action

section Transport

variable {σ : Type} {R : σ → σ → Prop} {transport : Transport σ}

theorem Exchange.logMessage_blind (direction : Direction) (m : Message) :
    (logMessage direction m : Action σ Unit).Blind R := by
  intro s other h
  rw [logMessage_apply, logMessage_apply]
  exact ⟨rfl, h, rfl⟩

variable (ht : ∀ command args, (transport command args).Blind R)

include ht

theorem Exchange.deliver_blind (p : Packet) : (deliver transport p).Blind R :=
  ((ht p.tag p.args).bind fun _ => blind_lift _).mapFailure _

theorem exchange_blind (request : Message) (expected : Value) :
    (exchange transport request expected).Blind R := by
  unfold exchange
  refine (blind_lift _).bind fun _ => (blind_lift _).bind fun p => ?_
  refine (Exchange.logMessage_blind _ _).bind fun _ => (Exchange.deliver_blind ht p).bind fun _ => ?_
  refine (blind_lift _).bind fun _ => (Exchange.logMessage_blind _ _).bind fun _ => ?_
  exact blind_lift _

theorem Operation.perform_blind (op : Operation) (arg : Option Value) :
    (op.perform transport arg).Blind R := by
  unfold perform
  refine (blind_lift _).bind fun _ => ?_
  exact (exchange_blind ht _ _).bind fun _ => blind_lift _

theorem Use.run_blind (u : Use) : (u.run transport).Blind R := by
  cases u with
  | exchange command args expected =>
    exact (exchange_blind ht ⟨command, args⟩ expected).bind fun _ => blind_pure _
  | perform op arg => exact (op.perform_blind ht arg).bind fun _ => blind_pure _

end Transport

/-- Two buses that differ in nothing but what closings do. -/
structure Bus.Twin (bus other : Bus) : Prop where
  opens : bus.opens = other.opens
  replies : bus.replies = other.replies

namespace Link

/-- Two connections that differ in nothing but what closings do. -/
structure Twin (link other : Link) : Prop extends link.Alike other where
  opens : link.bus.opens = other.bus.opens

/-- The connection on a bus with other items for its closings. -/
def closing (link : Link) (closes : List (Option Failure)) : Link :=
  { link with bus := { link.bus with closes := closes } }

theorem twin_closing (link : Link) (closes : List (Option Failure)) :
    link.Twin (link.closing closes) := ⟨⟨rfl, rfl, rfl⟩, rfl⟩

theorem Twin.past {link other : Link} (h : link.Twin other) (t : Trace) :
    (link.past t).Twin (other.past t) := by
  refine ⟨⟨h.connected, h.endpoint, ?_⟩, ?_⟩
  · simp only [Link.past, Bus.past, h.replies]
  · simp only [Link.past, Bus.past, h.opens]

theorem connect_blind : connect.Blind Twin := by
  intro link other h
  have hopen : link.bus.nextOpen.1 = other.bus.nextOpen.1 := by simp only [Bus.nextOpen, h.opens]
  have hrest : link.bus.nextOpen.2.opens = other.bus.nextOpen.2.opens := by
    simp only [Bus.nextOpen, h.opens]
  have hreplies : link.bus.nextOpen.2.replies = other.bus.nextOpen.2.replies := h.replies
  cases hc : link.connected with
  | true =>
    rw [connect_of_connected hc, connect_of_connected (h.connected ▸ hc), h.endpoint]
    exact ⟨rfl, h, rfl⟩
  | false =>
    have hc' : other.connected = false := h.connected ▸ hc
    cases ho : link.bus.nextOpen.1 with
    | some e =>
      rw [connect_of_refused hc ho, connect_of_refused hc' (hopen ▸ ho), h.endpoint]
      exact ⟨rfl, ⟨⟨h.connected, rfl, hreplies⟩, hrest⟩, rfl⟩
    | none =>
      rw [connect_of_opened hc ho, connect_of_opened hc' (hopen ▸ ho)]
      simp only [upLogs, h.endpoint]
      exact ⟨rfl, ⟨⟨rfl, rfl, hreplies⟩, hrest⟩, rfl⟩

theorem unwarned_downLogs (problem : Option Failure) :
    (downLogs problem).unwarned = downLogs none := by
  cases problem <;> rfl

/-- The item that a closing takes decides its warning and nothing else. -/
theorem disconnect_blind : disconnect.Blind Twin := by
  intro link other h
  cases hc : link.connected with
  | false =>
    rw [disconnect_of_closed hc, disconnect_of_closed (h.connected ▸ hc)]
    exact ⟨rfl, h, rfl⟩
  | true =>
    rw [disconnect_of_connected hc, disconnect_of_connected (h.connected ▸ hc)]
    refine ⟨rfl, ⟨⟨rfl, h.endpoint, h.replies⟩, h.opens⟩, ?_⟩
    exact congrArg (Event.closed :: ·) ((unwarned_downLogs _).trans (unwarned_downLogs _).symm)

theorem call_blind (command args : Value) : (call command args).Blind Twin := by
  intro link other h
  obtain ⟨hr, ht⟩ := h.toAlike.call command args
  refine ⟨hr, ?_, congrArg Trace.unwarned ht⟩
  rw [call_state, call_state, ht]
  exact h.past _

theorem transport_blind (command : UInt8) (bs : Bytes) : (transport command bs).Blind Twin :=
  (call_blind _ _).bind fun _ => blind_pure _

theorem within_blind {α : Type} {body : Action Link α} (hb : body.Blind Twin) :
    (within body).Blind Twin :=
  connect_blind.bind fun _ => hb.followedBy disconnect_blind

theorem onBus_blind {α : Type} {x : Action Link α} (hx : x.Blind Twin) (endpoint : Endpoint) :
    (onBus endpoint x).Blind Bus.Twin := by
  intro bus other h
  obtain ⟨hr, hs, ht⟩ := hx { endpoint := endpoint, bus := bus }
    { endpoint := endpoint, bus := other } ⟨⟨rfl, rfl, h.replies⟩, h.opens⟩
  exact ⟨hr, ⟨hs.opens, hs.replies⟩, ht⟩

/-- What is raised in a scope leaves it as it is, whatever becomes of the closing. -/
theorem within_result_of_ok {α : Type} {link : Link} {endpoint : Endpoint}
    (h : (connect link).result = .ok endpoint) (body : Action Link α) :
    (within body link).result = (body (connect link).state).result := by
  unfold within
  rw [bind_apply, h]
  dsimp only
  rw [followedBy_disconnect]
  rfl

end Link

open Link

namespace CommandLine

variable {σ : Type} {R : σ → σ → Prop}

theorem report_blind (v : Verdict) : (report v : Action σ Number).Blind R := by
  unfold report
  split
  · split
    · exact (blind_lift _).bind fun _ => (blind_emit _).bind fun _ => blind_pure _
    · exact (blind_emit _).bind fun _ => blind_lift _
  · exact (blind_emit _).bind fun _ => blind_lift _

theorem giveUp_blind (op : Operation) (e : Failure) : (giveUp op e : Action σ Number).Blind R :=
  (blind_emit _).bind fun _ => (blind_emit _).bind fun _ => blind_lift _

theorem attempt_blind (op : Operation) (arg : Value) : (attempt op arg).Blind Twin :=
  (blind_lift _).bind fun _ => within_blind (op.perform_blind transport_blind _)

theorem carryOut_blind (op : Operation) (arg : Value) : (carryOut op arg).Blind Twin := by
  refine (((attempt_blind op arg).map Except.ok).rescue fun e => ?_).bind fun outcome => ?_
  · split
    · exact blind_pure _
    · exact blind_fail e
  · cases outcome with
    | ok v => exact report_blind v
    | error e => exact giveUp_blind op e

theorem runCommand_blind (keyword arg : Value) : (runCommand keyword arg).Blind Twin :=
  (blind_lift _).bind fun op => carryOut_blind op arg

end CommandLine

theorem Outcome.Matches.view {out other : Outcome Link Number} (h : out.Matches Twin other) :
    out.view = other.view := by
  have hs : out.trace.said = other.trace.said := by
    rw [← out.trace.said_unwarned, h.trace, other.trace.said_unwarned]
  unfold Outcome.view
  rw [h.result, ← out.trace.output_said, ← out.trace.errors_said, hs, other.trace.output_said,
    other.trace.errors_said]

theorem Outcome.Matches.busEvents {σ α : Type} {R : σ → σ → Prop} {out other : Outcome σ α}
    (h : out.Matches R other) : out.trace.busEvents = other.trace.busEvents := by
  rw [← out.trace.busEvents_unwarned, h.trace, other.trace.busEvents_unwarned]

namespace Tool

theorem call_blind (t : Tool) (arg : Option Value) : (t.call arg).Blind Bus.Twin := by
  refine (blind_lift _).bind fun _ => ?_
  refine (onBus_blind (within_blind (t.operation.perform_blind transport_blind arg)) _).bind fun _ => ?_
  exact (blind_emit _).bind fun _ => blind_lift _

/-- What a client gets of a call and what the call shows on the bus and in the log. -/
def told (out : Outcome Bus Summary) : Except Failure Summary × Trace × Trace :=
  (out.result, out.trace.busEvents, out.trace.unwarned)

theorem callAll_blind (calls : List (Tool × Option Value)) {bus other : Bus}
    (h : bus.Twin other) : (callAll calls bus).map told = (callAll calls other).map told := by
  induction calls generalizing bus other with
  | nil => rfl
  | cons c rest ih =>
    obtain ⟨t, arg⟩ := c
    have hcall := t.call_blind arg bus other h
    have htold : told (t.call arg bus) = told (t.call arg other) := by
      simp only [told, hcall.result, hcall.busEvents, hcall.trace]
    simp only [callAll, List.map_cons, htold, ih hcall.state]

end Tool

mutual

/-- The account with what `f` sees of each trace. -/
def Account.seen (f : Trace → Trace) : Account → Account
  | .move result connected trace => .move result connected (f trace)
  | .block exit inner connected trace => .block exit (Account.seenAll f inner) connected (f trace)

def Account.seenAll (f : Trace → Trace) : List Account → List Account
  | [] => []
  | a :: rest => a.seen f :: Account.seenAll f rest

end

mutual

theorem Account.seen_seen {f g : Trace → Trace} (h : ∀ t, g (f t) = g t) (a : Account) :
    (a.seen f).seen g = a.seen g := by
  cases a with
  | move result connected trace => simp only [Account.seen, h]
  | block exit inner connected trace =>
    simp only [Account.seen, h, Account.seenAll_seenAll h inner]

theorem Account.seenAll_seenAll {f g : Trace → Trace} (h : ∀ t, g (f t) = g t)
    (accounts : List Account) :
    Account.seenAll g (Account.seenAll f accounts) = Account.seenAll g accounts := by
  cases accounts with
  | nil => rfl
  | cons a rest =>
    simp only [Account.seenAll, Account.seen_seen h a, Account.seenAll_seenAll h rest]

end

theorem Move.run_blind (m : Move) : m.run.Blind Twin := by
  cases m with
  | endpoint =>
    intro link other h
    exact ⟨congrArg (fun e => Except.ok (Gain.endpoint e)) h.endpoint, h, rfl⟩
  | connect => exact connect_blind.bind fun _ => blind_pure _
  | disconnect => exact disconnect_blind.bind fun _ => blind_pure _
  | enter => exact connect_blind.bind fun _ => blind_pure _
  | leave => exact disconnect_blind.bind fun _ => blind_pure _
  | call command args => exact (Link.call_blind command args).bind fun _ => blind_pure _
  | use u => exact (u.run_blind transport_blind).bind fun _ => blind_pure _

mutual

/-- A step run on twins, with the same things pending, gives the same account and leaves twins. -/
theorem Step.run_blind (s : Step) {pending untold : Trace} {link other : Link}
    (hp : pending.unwarned = untold.unwarned) (h : link.Twin other) :
    (Step.run pending s link).1.seen Trace.unwarned =
        (Step.run untold s other).1.seen Trace.unwarned ∧
      (Step.run pending s link).2.Twin (Step.run untold s other).2 := by
  cases s with
  | move m =>
    obtain ⟨hr, hs, ht⟩ := m.run_blind link other h
    refine ⟨?_, hs⟩
    simp only [Step.run, Account.seen, Trace.unwarned_append, hr, hs.connected, hp, ht]
  | block steps raising =>
    obtain ⟨hr, hs, ht⟩ := connect_blind link other h
    have hpending : (pending ++ (connect link).trace).unwarned =
        (untold ++ (connect other).trace).unwarned := by
      rw [Trace.unwarned_append, Trace.unwarned_append, hp, ht]
    cases hc : (connect link).result with
    | error e =>
      rw [Step.run_block_of_error hc, Step.run_block_of_error (hr ▸ hc)]
      refine ⟨?_, hs⟩
      simp only [Account.seen, Account.seenAll, hs.connected, hpending]
    | ok endpoint =>
      rw [Step.run_block_of_ok hc, Step.run_block_of_ok (hr ▸ hc)]
      obtain ⟨hinner, hlink, hrest⟩ := Step.runAll_blind steps hpending hs
      obtain ⟨_, hd, htd⟩ := disconnect_blind _ _ hlink
      refine ⟨?_, hd⟩
      simp only [Account.seen, Trace.unwarned_append, hinner, hd.connected, hrest, htd]

theorem Step.runAll_blind (steps : List Step) {pending untold : Trace} {link other : Link}
    (hp : pending.unwarned = untold.unwarned) (h : link.Twin other) :
    Account.seenAll Trace.unwarned (Step.runAll pending steps link).1 =
        Account.seenAll Trace.unwarned (Step.runAll untold steps other).1 ∧
      (Step.runAll pending steps link).2.1.Twin (Step.runAll untold steps other).2.1 ∧
      (Step.runAll pending steps link).2.2.unwarned =
        (Step.runAll untold steps other).2.2.unwarned := by
  cases steps with
  | nil => exact ⟨rfl, h, hp⟩
  | cons s rest =>
    obtain ⟨ha, hs⟩ := Step.run_blind s hp h
    obtain ⟨hrest, hlink, huntold⟩ := Step.runAll_blind rest (rfl : Trace.unwarned [] = _) hs
    refine ⟨?_, hlink, huntold⟩
    simp only [Step.runAll, Account.seenAll, ha, hrest]

end

theorem Step.runAll_busEvents (steps : List Step) {link other : Link} (h : link.Twin other) :
    Account.seenAll Trace.busEvents (Step.runAll [] steps link).1 =
      Account.seenAll Trace.busEvents (Step.runAll [] steps other).1 := by
  have hu := (Step.runAll_blind steps (rfl : Trace.unwarned [] = _) h).1
  have hb := congrArg (Account.seenAll Trace.busEvents) hu
  rwa [Account.seenAll_seenAll Trace.busEvents_unwarned,
    Account.seenAll_seenAll Trace.busEvents_unwarned] at hb

open CommandLine in
/-- Whether and how closings fail is seen neither in the exit code and the outputs of a command, nor
in what tool calls return, nor in the account of any step on a connection, nor in the events of any of
these. They differ in warnings alone, and what leaves a scope that was opened is what its body ended
with. -/
theorem Link.closing_unseen (closes : List (Option Failure)) :
    (∀ (keyword arg : Value) (link : Link),
      let out := runCommand keyword arg link
      let other := runCommand keyword arg (link.closing closes)
      out.view = other.view ∧ out.trace.busEvents = other.trace.busEvents ∧
        out.trace.unwarned = other.trace.unwarned) ∧
    (∀ (calls : List (Tool × Option Value)) (bus : Bus),
      (Tool.callAll calls bus).map Tool.told =
        (Tool.callAll calls { bus with closes := closes }).map Tool.told) ∧
    (∀ (steps : List Step) (link : Link),
      let accounts := (Step.runAll [] steps link).1
      let others := (Step.runAll [] steps (link.closing closes)).1
      Account.seenAll Trace.busEvents accounts = Account.seenAll Trace.busEvents others ∧
        Account.seenAll Trace.unwarned accounts = Account.seenAll Trace.unwarned others) ∧
    (∀ (link : Link) (endpoint : Endpoint), (connect link).result = .ok endpoint →
      (∀ (α : Type) (body : Action Link α),
        (within body link).result = (body (connect link).state).result) ∧
      ∀ (pending : Trace) (steps : List Step) (raising : Option Failure),
        ∃ inner connected trace,
          (Step.run pending (.block steps raising) link).1 =
            .block raising inner connected trace) := by
  refine ⟨fun keyword arg link => ?_, fun calls bus => ?_, fun steps link => ?_,
    fun link endpoint h => ⟨fun α body => within_result_of_ok h body, fun pending steps raising => ?_⟩⟩
  · have hm := runCommand_blind keyword arg link _ (link.twin_closing closes)
    exact ⟨hm.view, hm.busEvents, hm.trace⟩
  · exact Tool.callAll_blind calls ⟨rfl, rfl⟩
  · have ht := link.twin_closing closes
    exact ⟨Step.runAll_busEvents steps ht, (Step.runAll_blind steps rfl ht).1⟩
  · rw [Step.run_block_of_ok h]
    exact ⟨_, _, _, rfl⟩

end MailboxControl
