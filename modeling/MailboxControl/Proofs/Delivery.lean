import MailboxControl.Proofs.Cause
import MailboxControl.Proofs.Use

/-! How often a request reaches its transport, and what its caller gets. A transport that notes its
calls answers as it would without the notes. They show no call for a request that is refused and one
for any other, and what this call comes back with decides the result. -/

namespace MailboxControl

open MailboxControl.Action

variable {σ : Type}

/-- The transport with notes of the calls made of it, in their order. -/
def Transport.noting (transport : Transport σ) : Transport (σ × List Packet) :=
  fun command args s =>
    let out := transport command args s.1
    ⟨out.result, (out.state, s.2 ++ [⟨command, args⟩]), out.trace⟩

namespace Exchange

variable {request : Message} {expected : Value} {n k : Int} {bs : Bytes}

theorem noting_of_encode {p : Packet} (hx : checkExpected expected = .ok ())
    (hp : request.encode .request = .ok p) (transport : Transport σ) (s : σ)
    (calls : List Packet) :
    let out := transport p.tag p.args s
    (exchange transport.noting request expected (s, calls)).result =
        settle p.tag expected out.result ∧
      (exchange transport.noting request expected (s, calls)).state =
        (out.state, calls ++ [p]) := by
  rw [apply_of_encode hx hp]
  exact ⟨rfl, rfl⟩

/-- Notes change no result. -/
theorem noting_result (transport : Transport σ) (request : Message) (expected : Value) (s : σ)
    (calls : List Packet) :
    (exchange transport.noting request expected (s, calls)).result =
      (exchange transport request expected s).result := by
  cases hx : checkExpected expected with
  | error e => rw [apply_of_not_expected hx, apply_of_not_expected hx]
  | ok _ =>
    cases hp : request.encode .request with
    | error e => rw [apply_of_not_encoded hx hp, apply_of_not_encoded hx hp]
    | ok p =>
      rw [(noting_of_encode hx hp transport s calls).1, apply_of_encode hx hp]

/-- The transport returned two fields, an integer and bytes. -/
def Returned (reply : Except Failure Value) (status : Value) (s : Int) (bs : Bytes) : Prop :=
  ∃ v, reply = .ok v ∧ v.toPair = .ok (status, .bytes bs) ∧ status.integer? = some s

/-- What becomes of a request that was handed over and of whose reply `k` bytes are expected. -/
structure Follows (expected : Value) (k : Int) (reply : Except Failure Value)
    (result : Except Failure Packet) : Prop where
  client : ∀ e, reply = .error e → e.isClient = true → result = .error e
  other : ∀ e, reply = .error e → e.isClient = false → ∃ x, result = .error x ∧ x.Wraps e
  unpaired : ∀ v f, reply = .ok v → v.toPair = .error f →
    ∃ x, result = .error x ∧ x.Wraps (.fault f)
  noByte : ∀ status s bs, Returned reply status s bs → ¬ (0 ≤ s ∧ s ≤ 255) →
    result = .error (.protocol (.malformedReply (.tagNotByte .reply status)))
  short : ∀ status s bs, Returned reply status s bs → 0 ≤ s ∧ s ≤ 255 → bs.length < k →
    result = .error (.protocol (.shortReply expected bs.length))
  read : ∀ status s bs, Returned reply status s bs → 0 ≤ s ∧ s ≤ 255 → k ≤ bs.length →
    ∃ q : Packet, result = .ok q ∧ (q.tag.toNat : Int) = s ∧ q.args = bs.take k.toNat

theorem received_of_returned {reply : Except Failure Value} {status : Value} {s : Int}
    {bs : Bytes} (h : Returned reply status s bs) (command : UInt8) :
    received command reply = decode status (.bytes bs) := by
  obtain ⟨v, rfl, hv, _⟩ := h
  simp only [received, fields, hv]

theorem settle_of_returned {reply : Except Failure Value} {status : Value} {s : Int} {bs : Bytes}
    (hk : expected.integer? = some k) (h : Returned reply status s bs) (hs : 0 ≤ s ∧ s ≤ 255)
    (command : UInt8) :
    settle command expected reply =
      if (bs.length : Int) < k then .error (.protocol (.shortReply expected bs.length))
      else .ok ⟨UInt8.ofNat s.toNat, bs.take k.toNat⟩ := by
  have hr := received_of_returned h command
  obtain ⟨v, _, _, hint⟩ := h
  rw [decode_of_integer? hint, if_pos hs] at hr
  simp only [settle, hr, trim_of_integer? hk]

theorem settle_follows (hk : expected.integer? = some k) (command : UInt8)
    (reply : Except Failure Value) : Follows expected k reply (settle command expected reply) where
  client e he hclient := by
    subst he
    simp only [settle, received, fields, wrap, hclient, if_true]
  other e he hother := by
    subst he
    refine ⟨.wrapped (.requesting command) e, ?_, Failure.wraps_wrapped (by simp) e⟩
    simp [settle, received, fields, wrap, hother]
  unpaired v f hv hf := by
    subst hv
    refine ⟨.wrapped (.requesting command) (.fault f), ?_, Failure.wraps_wrapped (by simp) _⟩
    simp only [settle, received, fields, hf]
  noByte status s bs h hs := by
    have hr := received_of_returned h command
    obtain ⟨v, _, _, hint⟩ := h
    rw [decode_of_integer? hint, if_neg hs] at hr
    simp only [settle, hr]
  short status s bs h hs hl := by rw [settle_of_returned hk h hs, if_pos hl]
  read status s bs h hs hl := by
    exact ⟨_, by rw [settle_of_returned hk h hs, if_neg (by omega)], Message.toNat_byte hs, rfl⟩

theorem noting_of_negative (hk : expected.integer? = some k) (hneg : k < 0)
    (transport : Transport σ) (s : σ) (calls : List Packet) :
    exchange transport.noting request expected (s, calls) =
      ⟨.error (.fault (.negativeLength expected)), (s, calls), []⟩ := by
  have hx := checkExpected_of_integer? hk
  rw [if_pos hneg] at hx
  exact apply_of_not_expected hx (s, calls)

theorem noting_of_unpackable (hn : request.tag.integer? = some n) (hb : request.args = .bytes bs)
    (hk : expected.integer? = some k) (hpos : 0 ≤ k)
    (h : ¬ (0 ≤ n ∧ n ≤ 255 ∧ bs.length ≤ 255)) (transport : Transport σ) (s : σ)
    (calls : List Packet) :
    ∃ x, exchange transport.noting request expected (s, calls) =
      ⟨.error (.encoding x), (s, calls), []⟩ := by
  have hx := checkExpected_of_integer? hk
  rw [if_neg (by omega)] at hx
  have ht := Value.toInteger_of_integer? hn
  have hargs : request.args.toBytes = .ok bs := by rw [hb]; rfl
  cases hp : request.encode .request with
  | ok p =>
    obtain ⟨htag, hbytes, hl⟩ := Message.encode_eq_ok_iff.mp hp
    have htn : (p.tag.toNat : Int) = n := Except.ok.inj (htag.symm.trans ht)
    have hbs : p.args = bs := Except.ok.inj (hbytes.symm.trans hargs)
    have hlt : p.tag.toNat < 256 := p.tag.toNat_lt
    exact absurd ⟨by omega, by omega, hbs ▸ hl⟩ h
  | error e =>
    obtain ⟨x, rfl⟩ := Message.encode_error_of_parts ht hargs hp
    exact ⟨x, apply_of_not_encoded hx hp (s, calls)⟩

theorem encode_of_bytes (hn : request.tag.integer? = some n) (hb : request.args = .bytes bs)
    (h : 0 ≤ n ∧ n ≤ 255 ∧ bs.length ≤ 255) :
    ∃ p : Packet, request.encode .request = .ok p ∧ (p.tag.toNat : Int) = n ∧ p.args = bs := by
  obtain ⟨t, ht⟩ := Message.exists_byte_iff.mpr ⟨h.1, h.2.1⟩
  have htag : request.tag.toInteger = .ok (t.toNat : Int) := by
    rw [Value.toInteger_of_integer? hn, ht]
  have hargs : request.args.toBytes = .ok bs := by rw [hb]; rfl
  exact ⟨⟨t, bs⟩, Message.encode_eq_ok_iff.mpr ⟨htag, hargs, h.2.2⟩, ht, rfl⟩

/-- A request for a negative number of bytes, or one that cannot be packed, is refused before the
transport is called. Any other request calls it once, with its own command and bytes, and what that
call comes back with decides the result. -/
theorem calls_once (hn : request.tag.integer? = some n) (hb : request.args = .bytes bs)
    (hk : expected.integer? = some k) (transport : Transport σ) (s : σ) (calls : List Packet) :
    let out := exchange transport.noting request expected (s, calls)
    out.result = (exchange transport request expected s).result ∧
    (k < 0 →
      out.state = (s, calls) ∧ ∃ f, out.result = .error (.fault f) ∧ f.family = .value) ∧
    (0 ≤ k → ¬ (0 ≤ n ∧ n ≤ 255 ∧ bs.length ≤ 255) →
      out.state = (s, calls) ∧ ∃ x, out.result = .error (.encoding x)) ∧
    (0 ≤ k → 0 ≤ n ∧ n ≤ 255 ∧ bs.length ≤ 255 →
      ∃ p : Packet, (p.tag.toNat : Int) = n ∧ p.args = bs ∧
        let answer := transport p.tag p.args s
        out.state = (answer.state, calls ++ [p]) ∧
        Follows expected k answer.result out.result) := by
  intro out
  refine ⟨noting_result transport request expected s calls, fun hneg => ?_, fun hpos h => ?_,
    fun hpos h => ?_⟩
  · have hout : out = _ := noting_of_negative hk hneg transport s calls
    rw [hout]
    exact ⟨rfl, _, rfl, rfl⟩
  · obtain ⟨x, hout⟩ := noting_of_unpackable hn hb hk hpos h transport s calls
    have hout : out = _ := hout
    rw [hout]
    exact ⟨rfl, x, rfl⟩
  · obtain ⟨p, hp, htag, hargs⟩ := encode_of_bytes hn hb h
    have hx := checkExpected_of_integer? hk
    rw [if_neg (by omega)] at hx
    obtain ⟨hresult, hstate⟩ := noting_of_encode hx hp transport s calls
    exact ⟨p, htag, hargs, hstate, hresult ▸ settle_follows hk p.tag _⟩

/-- A reply that is longer than expected is cut off. -/
theorem calls_once_cut :
    let script : Script := [.returned (.list [.int 3, .bytes [1, 170, 187]])]
    let out := exchange (Transport.noting Script.transport) (.ofCommand .status) (.int 1) (script, [])
    out.state = ([], [⟨1, []⟩]) ∧
    ∃ q : Packet, out.result = .ok q ∧ (q.tag.toNat : Int) = 3 ∧ q.args = [1] := by
  intro script out
  have hk : (Value.int 1).integer? = some 1 := rfl
  have h := (@calls_once _ (.ofCommand .status) (.int 1) 1 1 [] rfl rfl hk Script.transport script
    []).2.2.2 (by decide) (by decide)
  obtain ⟨⟨tag, args⟩, htag, rfl, hstate, hfollows⟩ := h
  have ht : tag = 1 := UInt8.toNat_inj.mp (Int.ofNat.inj htag)
  subst ht
  exact ⟨hstate, hfollows.read (.int 3) 3 [1, 170, 187] ⟨_, rfl, rfl, rfl⟩ (by decide) (by decide)⟩

end Exchange

end MailboxControl
