import MailboxControl.Operation
import MailboxControl.Proofs.Exchange

/-! An operation in closed form. Its request is fixed by what it is given, it uses the transport
once, and its verdict is a function of the status and of the first bytes of the reply. -/

namespace MailboxControl

open MailboxControl.Action Exchange

namespace Operation

variable {σ : Type}

def tag (op : Operation) : UInt8 := UInt8.ofNat op.command.number

/-- The argument bytes of a request for which `arg` has been read. -/
def payload : Option Value → Bytes
  | some (.code (.flag flag)) => [flag.byte]
  | _ => []

theorem toNat_tag (op : Operation) : op.tag.toNat = op.command.number := by
  cases op <;> rfl

theorem checkExpected_replyLength (op : Operation) :
    checkExpected (.int op.command.replyLength) = .ok () := by
  cases op <;> rfl

theorem encode_ofResume (flag : ResumeFlag) :
    (Message.ofResume flag).encode .request = .ok ⟨resume.tag, [flag.byte]⟩ := by
  cases flag <;> rfl

theorem encode_of_request {op : Operation} {arg : Option Value} {m : Message}
    (h : op.request arg = .ok m) :
    ∃ bs, m = ⟨.code (.command op.command), .bytes bs⟩ ∧
      m.encode .request = .ok ⟨op.tag, bs⟩ := by
  cases arg with
  | none => cases op <;> cases h <;> exact ⟨[], rfl, rfl⟩
  | some v =>
    cases op with
    | resume =>
      cases hf : ResumeFlag.parse v with
      | error e => simp [request, hf] at h
      | ok flag =>
        simp only [request, hf, Except.ok.injEq] at h
        subst h
        exact ⟨[flag.byte], rfl, encode_ofResume flag⟩
    | _ => cases h

/-- The result of an operation whose request was sent. -/
def outcome (op : Operation) (reply : Except Failure Value) : Except Failure Verdict :=
  match settle op.tag (.int op.command.replyLength) reply with
  | .ok p => op.conclude p
  | .error e => .error e

theorem perform_of_refused {op : Operation} {arg : Option Value} {e : Failure}
    (h : op.request arg = .error e) (transport : Transport σ) (s : σ) :
    op.perform transport arg s = ⟨.error e, s, []⟩ := by
  unfold perform
  rw [h, lift_error_bind]

theorem perform_apply {op : Operation} {arg : Option Value} {m : Message} {bs : Bytes}
    (hr : op.request arg = .ok m) (he : m.encode .request = .ok ⟨op.tag, bs⟩)
    (transport : Transport σ) (s : σ) :
    let out := transport op.tag bs s
    op.perform transport arg s =
      ⟨op.outcome out.result, out.state,
        logLines .request m ++ (out.trace ++ replyLines (received op.tag out.result))⟩ := by
  intro out
  have hx := @apply_of_encode _ transport _ _ _ op.checkExpected_replyLength he s
  unfold perform
  rw [hr, lift_ok_bind, bind_apply, hx]
  unfold outcome
  cases hs : settle op.tag (.int op.command.replyLength) out.result with
  | error e => simp [out]
  | ok p => simp [out]

/-- Zero is active; everything else counts as suspended. -/
def stateOf (args : Bytes) : AccessState := if args.head? = some 0 then .active else .suspended

def verdict (op : Operation) (status : UInt8) (args : Bytes) : Verdict :=
  ⟨op.title, .int status.toNat,
    if op = .status ∧ status = 0 then .code (.state (stateOf args)) else .null⟩

theorem ok_mk_iff (title : String) (status : UInt8) (state : Value) :
    (Verdict.mk title (.int status.toNat) state).ok = true ↔ status = 0 := by
  have h : (Verdict.mk title (.int status.toNat) state).ok = ((status.toNat : Int) == 0) := rfl
  rw [h, beq_iff_eq]
  constructor
  · intro hz
    exact UInt8.toNat_inj.mp (by simpa using hz)
  · rintro rfl
    rfl

theorem parse_state (b : UInt8) (rest : Bytes) :
    AccessState.parse (.bytes (b :: rest)) = .ok (stateOf (b :: rest)) := by
  have h : (Value.int b.toNat).same (.int 0) = ((b.toNat : Int) == 0) := rfl
  simp only [AccessState.parse, Value.items?, List.map_cons, h, stateOf, List.head?_cons]
  by_cases hb : b = 0
  · subst hb
    rfl
  · have hn : ((b.toNat : Int) == 0) = false := by
      rw [beq_eq_false_iff_ne]
      exact fun hz => hb (UInt8.toNat_inj.mp (by simpa using hz))
    simp [hn, hb]

/-- Only the bytes that are read decide the verdict. -/
theorem conclude_take {op : Operation} {status : UInt8} {args : Bytes}
    (h : op.command.replyLength ≤ args.length) :
    op.conclude ⟨status, args.take op.command.replyLength⟩ = .ok (op.verdict status args) := by
  cases op with
  | status =>
    cases args with
    | nil => simp [command, Command.replyLength] at h
    | cons b rest =>
      have ht : (b :: rest).take Operation.status.command.replyLength = [b] := rfl
      rw [ht]
      unfold conclude verdict
      by_cases hs : status = 0
      · simp only [if_true, parse_state, hs, and_self]
        rfl
      · have hn : (Verdict.mk Operation.status.title (.int status.toNat) .null).ok = false :=
          Bool.eq_false_iff.mpr (fun hz => hs ((ok_mk_iff _ status .null).mp hz))
        simp [hn, hs]
  | _ => simp [conclude, verdict]

theorem outcome_of_received {op : Operation} {reply : Except Failure Value} {p : Packet}
    (h : received op.tag reply = .ok p) :
    op.outcome reply =
      if p.args.length < op.command.replyLength then
        .error (.protocol (.shortReply (.int op.command.replyLength) p.args.length))
      else .ok (op.verdict p.tag p.args) := by
  unfold outcome settle
  rw [h]
  simp only [trim_nat]
  by_cases hl : p.args.length < op.command.replyLength
  · simp [hl]
  · simp only [hl, if_false]
    exact conclude_take (by omega)

theorem outcome_eq_ok {op : Operation} {reply : Except Failure Value} {v : Verdict}
    (h : op.outcome reply = .ok v) : ∃ status args, v = op.verdict status args := by
  cases hr : received op.tag reply with
  | error e => simp [outcome, settle, hr] at h
  | ok p =>
    rw [outcome_of_received hr] at h
    split at h
    · cases h
    · exact ⟨p.tag, p.args, (Except.ok.inj h).symm⟩

theorem outcome_of_not_received {op : Operation} {reply : Except Failure Value} {e : Failure}
    (h : received op.tag reply = .error e) : op.outcome reply = .error e := by
  simp [outcome, settle, h]

end Operation

end MailboxControl
