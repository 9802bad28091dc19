import MailboxControl.Proofs.Description
import MailboxControl.Proofs.Use

/-! The debug log as an audit of requests. A transport that plays a script is called only after the line
about the request, and a line about the response follows exactly if what came back is a pair that decodes
to one. The lines about requests are in step with the calls, and tell them apart. -/

namespace MailboxControl

open MailboxControl.Action Exchange

/-- A message with an integer tag and bytes. -/
def Message.Regular (m : Message) : Prop := (∃ n, m.tag.integer? = some n) ∧ ∃ bs, m.args = .bytes bs

theorem Message.Regular.same_iff {m k : Message} (hm : m.Regular) (hk : k.Regular)
    (direction : Direction) :
    ∃ s t, m.describe direction = .ok s ∧ k.describe direction = .ok t ∧
      (s = t ↔ m.same k = true) := by
  obtain ⟨⟨a, ha⟩, bs, hbs⟩ := hm
  obtain ⟨⟨b, hb⟩, cs, hcs⟩ := hk
  exact ⟨_, _, describe_eq_written ha hbs direction, describe_eq_written hb hcs direction,
    written_eq_iff_same ha hbs hb hcs direction⟩

theorem Message.Regular.packed {m : Message} {p : Packet} {direction : Direction} (hm : m.Regular)
    (h : m.encode direction = .ok p) :
    m.tag.integer? = some (p.tag.toNat : Int) ∧ m.args = .bytes p.args := by
  obtain ⟨⟨n, hn⟩, bs, hb⟩ := hm
  obtain ⟨htag, hargs, -⟩ := encode_eq_ok_iff.mp h
  rw [Value.toInteger_of_integer? hn] at htag
  rw [hb] at hargs
  exact ⟨hn.trans (congrArg some (Except.ok.inj htag)),
    hb.trans (congrArg Value.bytes (Except.ok.inj hargs))⟩

/-- What a script comes back with next. -/
def Script.answer : Script → Except Failure Value
  | [] => .error .exhausted
  | .returned reply :: _ => .ok reply
  | .raised e :: _ => .error e

theorem Script.transport_apply (command : UInt8) (args : Bytes) (script : Script) :
    Script.transport command args script =
      ⟨script.answer, script.tail, [.delivered command args]⟩ := by
  cases script with
  | nil => rfl
  | cons entry rest => cases entry <;> rfl

namespace Exchange

/-- The line about a message, by the packet that it is packed in. -/
def line (direction : Direction) (p : Packet) : String :=
  arrow direction ++ Message.written direction p.tag.toNat p.args

/-- The response in what a transport came back with, which is one if it is a pair that decodes. -/
def response? (answer : Except Failure Value) : Option Packet :=
  match answer with
  | .ok v =>
    match v.toPair with
    | .ok (status, args) => (Message.decodeReply status args).toOption
    | .error _ => none
  | .error _ => none

theorem logLines_of_integer {m : Message} {p : Packet}
    (hn : m.tag.integer? = some (p.tag.toNat : Int)) (hb : m.args = .bytes p.args)
    (direction : Direction) :
    logLines direction m = [.logged ⟨.debug, .exchange, line direction p⟩] := by
  rw [logLines, Message.describe_eq_written hn hb]
  rfl

theorem response?_eq_some_iff {answer : Except Failure Value} {q : Packet} :
    response? answer = some q ↔ ∃ v status args, answer = .ok v ∧ v.toPair = .ok (status, args) ∧
      Message.decodeReply status args = .ok q := by
  unfold response?
  cases answer with
  | error e => simp
  | ok v =>
    cases hv : v.toPair with
    | error f => simp [hv]
    | ok pair =>
      obtain ⟨status, args⟩ := pair
      have hfields : ∀ r, (∃ w x y, Except.ok (ε := Failure) v = .ok w ∧ w.toPair = .ok (x, y) ∧
          Message.decodeReply x y = r) ↔ Message.decodeReply status args = r := by
        intro r
        constructor
        · rintro ⟨w, x, y, hw, hp, hd⟩
          cases hw
          cases hv.symm.trans hp
          exact hd
        · exact fun hd => ⟨v, status, args, rfl, hv, hd⟩
      rw [hfields]
      cases hd : Message.decodeReply status args <;> simp [hv, hd, Except.toOption]

theorem replyLines_received (command : UInt8) (answer : Except Failure Value) :
    replyLines (received command answer) =
      (response? answer).toList.map fun q => .logged ⟨.debug, .exchange, line .reply q⟩ := by
  cases answer with
  | error e => rfl
  | ok v =>
    cases hv : v.toPair with
    | error f => simp [received, fields, response?, hv, replyLines]
    | ok pair =>
      obtain ⟨status, args⟩ := pair
      cases hd : Message.decodeReply status args with
      | error e => simp [received, fields, response?, hv, decode, hd, replyLines, Except.toOption]
      | ok q =>
        have hq : logLines .reply q.toMessage = [.logged ⟨.debug, .exchange, line .reply q⟩] :=
          logLines_of_integer rfl rfl .reply
        simp [received, fields, response?, hv, decode, hd, replyLines, Except.toOption, hq]

end Exchange

/-- One call of a transport: what was asked for, how it was packed, and what came back. -/
structure Call where
  request : Message
  packet : Packet
  answer : Except Failure Value

/-- What a call leaves behind, in order. -/
def Call.history (c : Call) : Trace :=
  .logged ⟨.debug, .exchange, line .request c.packet⟩ ::
    .delivered c.packet.tag c.packet.args ::
      (response? c.answer).toList.map fun q => .logged ⟨.debug, .exchange, line .reply q⟩

namespace Trace

/-- The debug lines of the exchange that start with the arrow of a direction. -/
def lines (direction : Direction) (t : Trace) : List String :=
  t.filterMap fun
    | .logged ⟨.debug, .exchange, message⟩ =>
      if (arrow direction).toList.isPrefixOf message.toList then some message else none
    | _ => none

theorem lines_nil (direction : Direction) : lines direction [] = [] := rfl

theorem lines_logged_line (direction d : Direction) (p : Packet) (t : Trace) :
    lines direction (.logged ⟨.debug, .exchange, line d p⟩ :: t) =
      if d = direction then line d p :: lines direction t else lines direction t := by
  cases direction <;> cases d <;> simp [lines, line, arrow, String.toList_append]

theorem lines_delivered (direction : Direction) (command : UInt8) (args : Bytes) (t : Trace) :
    lines direction (.delivered command args :: t) = lines direction t := rfl

end Trace

namespace Call

variable (c : Call)

theorem deliveries_history : c.history.deliveries = [(c.packet.tag, c.packet.args)] := by
  unfold history
  cases response? c.answer <;> rfl

theorem lines_request_history : c.history.lines .request = [line .request c.packet] := by
  unfold history
  cases response? c.answer <;>
    simp [Trace.lines_logged_line, Trace.lines_delivered, Trace.lines_nil]

theorem lines_reply_history :
    c.history.lines .reply = (response? c.answer).toList.map (line .reply) := by
  unfold history
  cases response? c.answer <;>
    simp [Trace.lines_logged_line, Trace.lines_delivered, Trace.lines_nil]

theorem lines_flatMap_history (direction : Direction) (sent : List Call) :
    Trace.lines direction (sent.flatMap history) = sent.flatMap fun c => c.history.lines direction :=
  List.filterMap_flatMap

theorem mem_lines_reply {text : String} :
    text ∈ c.history.lines .reply ↔ ∃ v status args q shown,
      c.answer = .ok v ∧ v.toPair = .ok (status, args) ∧
      Message.decodeReply status args = .ok q ∧ q.toMessage.describe .reply = .ok shown ∧
      text = "<- " ++ shown := by
  have hd : ∀ q : Packet,
      q.toMessage.describe .reply = .ok (Message.written .reply q.tag.toNat q.args) :=
    fun q => Message.describe_eq_written rfl rfl .reply
  simp only [c.lines_reply_history, List.mem_map, Option.mem_toList, response?_eq_some_iff, hd]
  constructor
  · rintro ⟨q, ⟨v, status, args, ha, hp, hq⟩, rfl⟩
    exact ⟨v, status, args, q, _, ha, hp, hq, rfl, rfl⟩
  · rintro ⟨v, status, args, q, shown, ha, hp, hq, hs, rfl⟩
    exact ⟨q, ⟨v, status, args, ha, hp, hq⟩, congrArg _ (Except.ok.inj hs)⟩

end Call

namespace Use

/-- A request of the caller's own making is a regular message. -/
def Regular : Use → Prop
  | .exchange command args _ => Message.Regular ⟨command, args⟩
  | .perform _ _ => True

/-- The call that a use makes of a transport with this answer. -/
def call? (u : Use) (answer : Except Failure Value) : Option Call :=
  match u.request with
  | .error _ => none
  | .ok m =>
    match m.encode .request with
    | .error _ => none
    | .ok p => some ⟨m, p, answer⟩

variable {u : Use} {m : Message} {p : Packet}

theorem call?_eq_some_iff {answer : Except Failure Value} {c : Call} :
    u.call? answer = some c ↔ u.Packs c.request c.packet ∧ c.answer = answer := by
  obtain ⟨m, p, given⟩ := c
  unfold call? Packs
  cases u.request with
  | error e => simp
  | ok n =>
    cases he : n.encode .request with
    | error e =>
      -- a message that packs is another one
      have hne : ¬ (n = m ∧ m.encode .request = .ok p) := by
        rintro ⟨rfl, hm⟩
        rw [he] at hm
        cases hm
      simp [he, hne]
    | ok q =>
      simp only [he, Option.some.injEq, Call.mk.injEq, Except.ok.injEq]
      constructor
      · rintro ⟨rfl, rfl, rfl⟩
        exact ⟨⟨rfl, he⟩, rfl⟩
      · rintro ⟨⟨rfl, hm⟩, rfl⟩
        exact ⟨rfl, Except.ok.inj (he.symm.trans hm), rfl⟩

theorem Regular.request (hu : u.Regular) (h : u.request = .ok m) : m.Regular := by
  cases u with
  | exchange command args expected =>
    obtain ⟨-, rfl⟩ := request_exchange_eq_ok_iff.mp h
    exact hu
  | perform op arg =>
    obtain ⟨bs, rfl, -⟩ := Operation.encode_of_request h
    exact ⟨⟨_, rfl⟩, bs, rfl⟩

theorem Regular.packed (hu : u.Regular) (h : u.Packs m p) :
    m.tag.integer? = some (p.tag.toNat : Int) ∧ m.args = .bytes p.args :=
  (hu.request h.1).packed h.2

theorem Regular.line_eq (hu : u.Regular) (h : u.Packs m p) :
    (m.describe .request).map ("-> " ++ ·) = .ok (line .request p) := by
  obtain ⟨hn, hb⟩ := hu.packed h
  rw [Message.describe_eq_written hn hb]
  rfl

/-- A use leaves behind the call that it makes, and nothing if it makes none. -/
theorem Regular.run_shows (hu : u.Regular) (script : Script) :
    let call := u.call? script.answer
    (u.run Script.transport script).trace = call.elim [] Call.history ∧
      (u.run Script.transport script).state = call.elim script fun _ => script.tail := by
  intro call
  cases hc : call with
  | some c =>
    obtain ⟨hp, ha⟩ := call?_eq_some_iff.mp hc
    obtain ⟨hn, hb⟩ := hu.packed hp
    rw [run_of_packs hp]
    simp only [Script.transport_apply]
    rw [logLines_of_integer hn hb, replyLines_received, ← ha]
    exact ⟨rfl, rfl⟩
  | none =>
    rcases u.packs_or_stops with ⟨m, p, hp⟩ | ⟨e, he⟩
    · have hs : call = some ⟨m, p, script.answer⟩ := call?_eq_some_iff.mpr ⟨hp, rfl⟩
      rw [hs] at hc
      cases hc
    · rw [he]
      exact ⟨rfl, rfl⟩

end Use

namespace Script

/-- The calls that the uses make, one after another, each of which takes the next entry. -/
def calls : List Use → Script → List (Option Call)
  | [], _ => []
  | u :: us, script =>
    let call := u.call? script.answer
    call :: calls us (call.elim script fun _ => script.tail)

theorem run_shows {us : List Use} (h : ∀ u ∈ us, u.Regular) (script : Script) :
    (run us script).map (·.trace) = (calls us script).map (Option.elim · [] Call.history) := by
  induction us generalizing script with
  | nil => rfl
  | cons u us ih =>
    obtain ⟨htrace, hstate⟩ := (h u (by simp)).run_shows script
    rw [run, calls, List.map_cons, List.map_cons, htrace, hstate,
      ih fun v hv => h v (by simp [hv])]

theorem calls_answers (us : List Use) (script : Script) :
    let sent := (calls us script).filterMap id
    sent.map (·.answer) = (List.range sent.length).map fun i => answer (script.drop i) := by
  induction us generalizing script with
  | nil => rfl
  | cons u us ih =>
    rw [calls]
    cases hc : u.call? script.answer with
    | some c =>
      have ha := (Use.call?_eq_some_iff.mp hc).2
      have hrest := ih script.tail
      simp only [List.filterMap_cons, id, List.map_cons, List.length_cons, List.range_succ_eq_map,
        List.map_map, ha, List.drop_zero, Option.elim] at hrest ⊢
      rw [hrest]
      simp [Function.comp_def]
    | none => exact ih script

theorem packs_of_mem_calls {us : List Use} {script : Script} {c : Call}
    (h : some c ∈ calls us script) : ∃ u ∈ us, u.Packs c.request c.packet := by
  induction us generalizing script with
  | nil => cases h
  | cons u us ih =>
    rcases List.mem_cons.mp h with hc | hrest
    · exact ⟨u, by simp, (Use.call?_eq_some_iff.mp hc.symm).1⟩
    · obtain ⟨v, hv, hp⟩ := ih hrest
      exact ⟨v, by simp [hv], hp⟩

theorem flatten_history (made : List (Option Call)) :
    (made.map (Option.elim · [] Call.history)).flatten =
      (made.filterMap id).flatMap Call.history := by
  induction made with
  | nil => rfl
  | cons call made ih => cases call <;> simp [ih]

/-- Every call leaves one line about its request, which is the written form of the message that one of the
uses packed, and the lines are in the order of the calls. A line about a response follows exactly if the
transport came back with a pair that decodes to one. Messages with integers and bytes have the same
written form exactly if they are equal. -/
theorem run_audited :
    (∀ (us : List Use) (script : Script), (∀ u ∈ us, u.Regular) →
      let made := calls us script
      let sent := made.filterMap id
      let trace : Trace := ((run us script).map (·.trace)).flatten
      (run us script).map (·.trace) = made.map (Option.elim · [] Call.history) ∧
      trace.deliveries = sent.map (fun c => (c.packet.tag, c.packet.args)) ∧
      (trace.lines .request).map Except.ok =
        sent.map (fun c => (c.request.describe .request).map ("-> " ++ ·)) ∧
      sent.map (·.answer) = (List.range sent.length).map (fun i => answer (script.drop i)) ∧
      ∀ c ∈ sent, (∃ u ∈ us, u.Packs c.request c.packet) ∧
        ∀ text, text ∈ c.history.lines .reply ↔ ∃ v status args q shown,
          c.answer = .ok v ∧ v.toPair = .ok (status, args) ∧
          Message.decodeReply status args = .ok q ∧ q.toMessage.describe .reply = .ok shown ∧
          text = "<- " ++ shown) ∧
    ∀ (direction : Direction) (m k : Message), m.Regular → k.Regular →
      ∃ s t, m.describe direction = .ok s ∧ k.describe direction = .ok t ∧
        (s = t ↔ m.same k = true) := by
  refine ⟨fun us script h => ?_, fun direction m k hm hk => hm.same_iff hk direction⟩
  intro made sent trace
  have hshown : (run us script).map (·.trace) = made.map (Option.elim · [] Call.history) :=
    run_shows h script
  have htrace : trace = sent.flatMap Call.history := by
    rw [show trace = (made.map (Option.elim · [] Call.history)).flatten from
      congrArg List.flatten hshown, flatten_history]
  have hpacks : ∀ c ∈ sent, ∃ u ∈ us, u.Packs c.request c.packet := fun c hc =>
    packs_of_mem_calls (by simpa [sent] using hc)
  refine ⟨hshown, ?_, ?_, calls_answers us script,
    fun c hc => ⟨hpacks c hc, fun text => c.mem_lines_reply⟩⟩
  · rw [htrace, Trace.deliveries, List.filterMap_flatMap, List.map_eq_flatMap]
    exact congrArg sent.flatMap (funext Call.deliveries_history)
  · have hlines : trace.lines .request = sent.map fun c => line .request c.packet := by
      rw [htrace, Call.lines_flatMap_history, List.map_eq_flatMap]
      exact congrArg sent.flatMap (funext Call.lines_request_history)
    rw [hlines, List.map_map]
    refine List.map_congr_left fun c hc => ?_
    obtain ⟨u, hu, hp⟩ := hpacks c hc
    exact ((h u hu).line_eq hp).symm

/-- A request that does not pack and a bad resume flag leave no line, a reply that turns out too short
leaves its own, and an exhausted script leaves the line about the request alone. -/
theorem run_audited_short_reply :
    let us : List Use := [.exchange (.int 256) (.bytes []) (.int 0),
      .exchange (.int 1) (.bytes [7, 255]) (.int 4), .perform .resume (some (.int 2)),
      .perform .ping none]
    let script : Script := [.returned (.list [.bool true, .bytes [9]])]
    let trace : Trace := ((run us script).map (·.trace)).flatten
    trace.deliveries = [(1, [7, 255]), (0, [])] ∧
      trace.lines .request = ["-> CommandMessage(command=0x01, args=07 ff)",
        "-> CommandMessage(command=0x00, args=(empty))"] ∧
      trace.lines .reply = ["<- ResponseMessage(status=0x01, args=09)"] := by
  intro us script trace
  have hu : ∀ u ∈ us, u.Regular := by
    simp [us, Use.Regular, Message.Regular, Value.integer?]
  obtain ⟨hshown, hcalls, hlines, _⟩ := run_audited.1 us script hu
  have hreply : trace.lines .reply = ["<- ResponseMessage(status=0x01, args=09)"] := by
    rw [show trace = _ from congrArg List.flatten hshown, flatten_history,
      Call.lines_flatMap_history]
    exact (congrArg (List.flatMap · _) (funext Call.lines_reply_history)).trans rfl
  exact ⟨hcalls.trans rfl,
    (List.map_inj_right fun _ _ => Except.ok.inj).mp (hlines.trans rfl), hreply⟩

end Script

end MailboxControl
