import MailboxControl.Step
import MailboxControl.Proofs.Balance
import MailboxControl.Proofs.Connection

/-! The life of a bus behind a connection. Each operation of a connection is followed by its trace
from the connection before it to the connection after it, and so is a run of any steps: there is one
bus held while the connection is up, and none otherwise. -/

namespace MailboxControl

open Trace

namespace Action

variable {α β : Type} {x : Action Link α} {link : Link}

/-- What is shown from this link on leads to the connection that is left. -/
def TracksFrom (x : Action Link α) (link : Link) : Prop :=
  follow? link.connected (x link).trace = some (x link).state.connected

theorem TracksFrom.bind {f : α → Action Link β} (hx : x.TracksFrom link)
    (hf : ∀ a, (f a).TracksFrom (x link).state) : (x >>= f).TracksFrom link := by
  unfold TracksFrom
  rw [bind_apply]
  cases hr : (x link).result with
  | ok a => exact follow?_append_of hx (hf a)
  | error e => exact hx

theorem TracksFrom.mapFailure (hx : x.TracksFrom link) (f : Failure → Failure) :
    (x.mapFailure f).TracksFrom link := by
  unfold TracksFrom
  rw [mapFailure_apply]
  exact hx

theorem tracksFrom_pure (a : α) (link : Link) : (pure a : Action Link α).TracksFrom link := rfl

theorem tracksFrom_lift (r : Except Failure α) (link : Link) : (lift r).TracksFrom link := rfl

theorem tracksFrom_log (level : Level) (logger : Logger) (message : String) (link : Link) :
    (log level logger message).TracksFrom link := rfl

end Action

open MailboxControl.Action

namespace Link

theorem connect_tracks (link : Link) : connect.TracksFrom link := by
  unfold TracksFrom
  cases hc : link.connected with
  | true => rw [connect_of_connected hc, hc, follow?_nil]
  | false =>
    cases ho : link.bus.nextOpen.1 with
    | none => rw [connect_of_opened hc ho]; rfl
    | some e => rw [connect_of_refused hc ho, hc]; rfl

theorem disconnect_tracks (link : Link) : disconnect.TracksFrom link := by
  unfold TracksFrom
  cases hc : link.connected with
  | true => rw [disconnect_of_connected hc]; cases link.bus.nextClose.1 <;> rfl
  | false => rw [disconnect_of_closed hc, hc, follow?_nil]

theorem disconnect_closes (link : Link) :
    (disconnect link).trace.countP Event.isClosed = link.connected.toNat := by
  cases hc : link.connected with
  | true => rw [disconnect_of_connected hc]; cases link.bus.nextClose.1 <;> rfl
  | false => rw [disconnect_of_closed hc]; rfl

theorem call_tracks (command args : Value) (link : Link) :
    (call command args).TracksFrom link := by
  unfold TracksFrom
  rw [call_eq]
  cases ha : link.addressed command args with
  | error e => rfl
  | ok request =>
    obtain ⟨_, _, hc, _⟩ := addressed_eq_ok ha
    show follow? link.connected [.sent request] = some link.connected
    rw [hc]
    rfl

theorem transport_tracks (command : UInt8) (args : Bytes) (link : Link) :
    (transport command args).TracksFrom link :=
  (call_tracks _ _ link).bind fun _ => tracksFrom_pure _ _

section Within

variable {α : Type} {body : Action Link α}

theorem within_tracks (hb : ∀ link, body.TracksFrom link) (link : Link) :
    (within body).TracksFrom link := by
  refine (connect_tracks link).bind fun _ => ?_
  exact follow?_append_of (hb _) (disconnect_tracks _)

theorem within_balance {link : Link} (hb : ∀ link, body.TracksFrom link)
    (hc : link.connected = false) : balance (within body link).trace = 0 := by
  have h := balance_of_follow? (within_tracks hb link)
  rw [hc, within_connected] at h
  simpa using h.symm

end Within

end Link

theorem Exchange.logMessage_tracks (direction : Direction) (m : Message) (link : Link) :
    (logMessage direction m).TracksFrom link := by
  unfold logMessage
  split
  · exact tracksFrom_log _ _ _ link
  · exact tracksFrom_pure () link

theorem Exchange.deliver_tracks (p : Packet) (link : Link) :
    (deliver Link.transport p).TracksFrom link :=
  ((Link.transport_tracks p.tag p.args link).bind fun _ => tracksFrom_lift _ _).mapFailure _

theorem exchange_tracks (request : Message) (expected : Value) (link : Link) :
    (exchange Link.transport request expected).TracksFrom link := by
  unfold exchange
  refine (tracksFrom_lift _ link).bind fun _ => (tracksFrom_lift _ _).bind fun packet => ?_
  refine (Exchange.logMessage_tracks _ _ _).bind fun _ => ?_
  refine (Exchange.deliver_tracks packet _).bind fun _ => (tracksFrom_lift _ _).bind fun _ => ?_
  exact (Exchange.logMessage_tracks _ _ _).bind fun _ => tracksFrom_lift _ _

theorem Operation.perform_tracks (op : Operation) (arg : Option Value) (link : Link) :
    (op.perform Link.transport arg).TracksFrom link := by
  unfold perform
  refine (tracksFrom_lift _ link).bind fun _ => ?_
  exact (exchange_tracks _ _ _).bind fun _ => tracksFrom_lift _ _

theorem Use.run_tracks (u : Use) (link : Link) : (u.run Link.transport).TracksFrom link := by
  cases u with
  | exchange command args expected =>
    exact (exchange_tracks _ _ link).bind fun _ => tracksFrom_pure _ _
  | perform op arg => exact (op.perform_tracks arg link).bind fun _ => tracksFrom_pure _ _

theorem Move.run_tracks (m : Move) (link : Link) : m.run.TracksFrom link := by
  cases m with
  | endpoint => rfl
  | connect => exact (Link.connect_tracks link).bind fun _ => tracksFrom_pure _ _
  | disconnect => exact (Link.disconnect_tracks link).bind fun _ => tracksFrom_pure _ _
  | enter => exact (Link.connect_tracks link).bind fun _ => tracksFrom_pure _ _
  | leave => exact (Link.disconnect_tracks link).bind fun _ => tracksFrom_pure _ _
  | call command args =>
    exact (Link.call_tracks command args link).bind fun _ => tracksFrom_pure _ _
  | use u => exact (u.run_tracks link).bind fun _ => tracksFrom_pure _ _

/-- A point between two steps: whether the connection is up, and all that was shown before. Asking for
the endpoint makes such a point anywhere inside a block. -/
structure Point where
  connected : Bool
  shown : Trace

mutual

def Account.shown : Account → Trace
  | .move _ _ trace => trace
  | .block _ inner _ trace => Account.shownAll inner ++ trace

def Account.shownAll : List Account → Trace
  | [] => []
  | a :: rest => a.shown ++ Account.shownAll rest

end

mutual

/-- The points at which an account and those inside it were written. -/
def Account.points (before : Trace) : Account → List Point
  | .move _ connected trace => [⟨connected, before ++ trace⟩]
  | .block _ inner connected trace =>
    Account.pointsAll before inner ++ [⟨connected, before ++ Account.shownAll inner ++ trace⟩]

def Account.pointsAll (before : Trace) : List Account → List Point
  | [] => []
  | a :: rest => a.points before ++ Account.pointsAll (before ++ a.shown) rest

end

/-- Everything shown up to the point leads to the connection found there. -/
def Point.Tracked (p : Point) : Prop := follow? false p.shown = some p.connected

theorem Step.run_block_of_error {link : Link} {e : Failure}
    (h : (Link.connect link).result = .error e) (pending : Trace) (steps : List Step)
    (raising : Option Failure) :
    Step.run pending (.block steps raising) link =
      (.block (some e) [] (Link.connect link).state.connected
        (pending ++ (Link.connect link).trace), (Link.connect link).state) := by
  simp [Step.run, h]

theorem Step.run_block_of_ok {link : Link} {endpoint : Endpoint}
    (h : (Link.connect link).result = .ok endpoint) (pending : Trace) (steps : List Step)
    (raising : Option Failure) :
    let inner := Step.runAll (pending ++ (Link.connect link).trace) steps (Link.connect link).state
    let closing := Link.disconnect inner.2.1
    Step.run pending (.block steps raising) link =
      (.block raising inner.1 closing.state.connected (inner.2.2 ++ closing.trace),
        closing.state) := by
  simp [Step.run, h, Link.disconnect_result]

mutual

/-- From a point that is tracked, with `pending` shown and not yet told, a step comes through
tracked points only. -/
theorem Step.run_tracked (before pending : Trace) (s : Step) (link : Link)
    (h : follow? false (before ++ pending) = some link.connected) :
    (∀ p ∈ (Step.run pending s link).1.points before, p.Tracked) ∧
      follow? false (before ++ (Step.run pending s link).1.shown) =
        some (Step.run pending s link).2.connected := by
  cases s with
  | move m =>
    have hm := follow?_append_of h (m.run_tracks link)
    rw [List.append_assoc] at hm
    exact ⟨by simpa [Step.run, Account.points, Point.Tracked] using hm, hm⟩
  | block steps raising =>
    have ho := follow?_append_of h (Link.connect_tracks link)
    rw [List.append_assoc] at ho
    cases hr : (Link.connect link).result with
    | error e =>
      rw [Step.run_block_of_error hr]
      exact ⟨by simpa [Account.points, Account.pointsAll, Account.shownAll, Point.Tracked] using ho,
        ho⟩
    | ok endpoint =>
      rw [Step.run_block_of_ok hr]
      -- the opening is pending for the first account inside, the closing belongs to the block
      obtain ⟨hp, hl⟩ := Step.runAll_tracked before _ steps _ ho
      have hd := follow?_append_of hl (Link.disconnect_tracks _)
      rw [List.append_assoc] at hd
      refine ⟨fun p hmem => ?_, by simpa [Account.shown] using hd⟩
      rcases List.mem_append.mp hmem with hin | hout
      · exact hp p hin
      · rw [List.mem_singleton.mp hout]
        exact hd

theorem Step.runAll_tracked (before pending : Trace) (steps : List Step) (link : Link)
    (h : follow? false (before ++ pending) = some link.connected) :
    (∀ p ∈ Account.pointsAll before (Step.runAll pending steps link).1, p.Tracked) ∧
      follow? false (before ++ Account.shownAll (Step.runAll pending steps link).1 ++
        (Step.runAll pending steps link).2.2) =
        some (Step.runAll pending steps link).2.1.connected := by
  cases steps with
  | nil =>
    exact ⟨by simp [Step.runAll, Account.pointsAll],
      by simpa [Step.runAll, Account.shownAll] using h⟩
  | cons s rest =>
    obtain ⟨hp, hs⟩ := Step.run_tracked before pending s link h
    obtain ⟨hq, hr⟩ := Step.runAll_tracked (before ++ (Step.run pending s link).1.shown) [] rest
      (Step.run pending s link).2 (by simpa using hs)
    refine ⟨fun p hmem => ?_, by simpa [Step.runAll, Account.shownAll] using hr⟩
    rcases List.mem_append.mp hmem with hin | hout
    · exact hp p hin
    · exact hq p hout

end

theorem Step.run_block_connected (pending : Trace) (steps : List Step) (raising : Option Failure)
    (link : Link) : (Step.run pending (.block steps raising) link).2.connected = false := by
  cases hr : (Link.connect link).result with
  | error e =>
    rw [Step.run_block_of_error hr]
    exact (Link.connect_of_error hr).1
  | ok endpoint =>
    rw [Step.run_block_of_ok hr]
    exact Link.disconnect_connected _

/-- Only a block without steps leaves anything untold. -/
theorem Step.runAll_untold (steps : List Step) (link : Link) :
    (Step.runAll [] steps link).2.2 = [] := by
  cases steps with
  | nil => rfl
  | cons s rest => exact Step.runAll_untold rest _

theorem Step.runAll_orderly (steps : List Step) (endpoint : Endpoint) (bus : Bus) :
    let accounts := (Step.runAll [] steps { endpoint := endpoint, bus := bus }).1
    (∀ p ∈ Account.pointsAll [] accounts, p.Tracked) ∧ Orderly (Account.shownAll accounts) := by
  obtain ⟨hp, hl⟩ := Step.runAll_tracked [] [] steps { endpoint := endpoint, bus := bus } rfl
  rw [Step.runAll_untold, List.append_nil] at hl
  exact ⟨hp, _, hl⟩

/-- The buses opened less the buses closed are one while the connection is up and none otherwise, at
every point of a run, and the bus is used, opened and closed in order. An opening that fails leaves
no connection, one of an open connection opens nothing, a closing ends the connection whether or not
the bus fails, and a block leaves no connection behind, however it ends. -/
theorem Step.runAll_balance (steps : List Step) (endpoint : Endpoint) (bus : Bus) :
    let accounts := (Step.runAll [] steps { endpoint := endpoint, bus := bus }).1
    (∀ p ∈ Account.pointsAll [] accounts, balance p.shown = if p.connected then 1 else 0) ∧
    HoldsOneBus (Account.shownAll accounts) ∧
    (∀ (link : Link) e, (Link.connect link).result = .error e →
      (Link.connect link).state.connected = false ∧
        (Link.connect link).trace = [.opened link.endpoint.bus false]) ∧
    (∀ link : Link, link.connected = true → Link.connect link = ⟨.ok link.endpoint, link, []⟩) ∧
    (∀ link : Link, (Link.disconnect link).result = .ok () ∧
      (Link.disconnect link).state.connected = false ∧
      (Link.disconnect link).trace.countP Event.isClosed = link.connected.toNat) ∧
    (∀ pending inner raising link,
      (Step.run pending (.block inner raising) link).2.connected = false) ∧
    ∀ (α : Type) (body : Action Link α) link, (Link.within body link).state.connected = false := by
  obtain ⟨hp, ho⟩ := Step.runAll_orderly steps endpoint bus
  refine ⟨fun p hmem => ?_, ho.holdsOneBus, fun _ _ => Link.connect_of_error,
    fun _ => Link.connect_of_connected, fun link => ⟨Link.disconnect_result link,
      Link.disconnect_connected link, Link.disconnect_closes link⟩,
    Step.run_block_connected, fun _ => Link.within_connected⟩
  have hb := balance_of_follow? (hp p hmem)
  cases hc : p.connected <;> simp [hc] at hb ⊢ <;> omega

end MailboxControl
