import MailboxControl.Proofs.Exchange
import MailboxControl.Exchange

/-! The two fields of a reply. They are declared as a byte and an array of bytes, and fields of these
kinds are taken as they are. Not all others are refused as a protocol error: some are read as a byte
and bytes all the same, and some end in a fault. -/

namespace MailboxControl

namespace Value

/-- An integer of one byte, by whatever name. -/
def IsByte (v : Value) : Prop := ∃ n, v.integer? = some n ∧ 0 ≤ n ∧ n ≤ 255

/-- These bytes, or a list of their numbers. -/
def IsArrayOf (v : Value) (bs : Bytes) : Prop :=
  v = .bytes bs ∨
    ∃ items, v = .list items ∧ items.map integer? = bs.map fun b => some (b.toNat : Int)

theorem toByte_eq_ok_iff {v : Value} {b : UInt8} :
    v.toByte = .ok b ↔ v.integer? = some (b.toNat : Int) := by
  have hb : b.toNat < 256 := b.toNat_lt
  cases hn : v.integer? with
  | none => simp [toByte, hn]
  | some n =>
    simp only [toByte, hn, Option.some.injEq]
    by_cases hr : 0 ≤ n ∧ n < 256
    · rw [if_pos hr, Except.ok.injEq, ← UInt8.toNat_inj, UInt8.toNat_ofNat']
      omega
    · rw [if_neg hr]
      constructor
      · intro h
        cases h
      · intro h
        omega

theorem mapM_toByte_eq_ok_iff {items : List Value} {bs : Bytes} :
    items.mapM toByte = .ok bs ↔
      items.map integer? = bs.map fun b => some (b.toNat : Int) := by
  induction items generalizing bs with
  | nil => cases bs <;> simp [pure, Except.pure]
  | cons v items ih =>
    rw [List.mapM_cons]
    cases hv : v.toByte with
    | error f =>
      have hne : ∀ b : UInt8, v.integer? ≠ some (b.toNat : Int) := fun b hb => by
        rw [toByte_eq_ok_iff.mpr hb] at hv
        cases hv
      cases bs <;> simp [bind, Except.bind, hne]
    | ok b =>
      have hb := toByte_eq_ok_iff.mp hv
      cases hr : items.mapM toByte with
      | error f =>
        cases bs <;> simp [bind, Except.bind, ← ih, hr]
      | ok rest =>
        cases bs with
        | nil => simp [bind, Except.bind, pure, Except.pure]
        | cons c tail =>
          simp only [bind, Except.bind, pure, Except.pure, List.map_cons, List.cons.injEq,
            Except.ok.injEq, hb, Option.some.injEq, Int.natCast_inj, UInt8.toNat_inj, ← ih, hr]

theorem toBytes_of_isArrayOf {v : Value} {bs : Bytes} (h : v.IsArrayOf bs) :
    v.toBytes = .ok bs := by
  rcases h with rfl | ⟨items, rfl, hitems⟩
  · rfl
  · exact mapM_toByte_eq_ok_iff.mpr hitems

theorem isArrayOf_of_toBytes {v : Value} {bs : Bytes} (h : v.toBytes = .ok bs)
    (hn : v.integer? = none) : v.IsArrayOf bs := by
  cases v with
  | bytes given => exact Or.inl (congrArg Value.bytes (Except.ok.inj h))
  | list items => exact Or.inr ⟨items, rfl, mapM_toByte_eq_ok_iff.mp h⟩
  | bool b => cases hn
  | int n => cases hn
  | code c => cases hn
  | _ => cases h

theorem integer?_of_isArrayOf {v : Value} {bs : Bytes} (h : v.IsArrayOf bs) : v.integer? = none := by
  rcases h with rfl | ⟨items, rfl, _⟩ <;> rfl

end Value

namespace Exchange

variable {σ : Type} {status args : Value}

/-- The fields are of the declared kinds. -/
def Declared (status args : Value) : Prop := status.IsByte ∧ ∃ bs, args.IsArrayOf bs

/-- The fields are read as a byte and bytes, though the status is no integer or the array is a bare
one. -/
def Coerced (status args : Value) : Prop :=
  ∃ (t : UInt8) (bs : Bytes), status.toInteger = .ok (t.toNat : Int) ∧ args.toBytes = .ok bs ∧
    (status.integer? = none ∨ args.integer? ≠ none)

/-- The status is infinite, or it is read as a byte and the array has a number that fits nowhere. -/
def Faulty (status args : Value) : Prop :=
  (∃ negative, status = .float (.infinite negative)) ∨
    ∃ (t : UInt8) (f : Fault), status.toInteger = .ok (t.toNat : Int) ∧ args.toBytes = .error f ∧
      f.family ≠ .type

/-- Nothing is taken but what is declared, and anything else is refused as a protocol error. -/
structure Strict (status args : Value) (result : Except Failure Packet) : Prop where
  taken : ∀ q, result = .ok q → Declared status args
  refused : ¬ Declared status args → ∃ x, result = .error (.protocol x)

theorem decode_eq_ok_iff {q : Packet} :
    decode status args = .ok q ↔
      status.toInteger = .ok (q.tag.toNat : Int) ∧ args.toBytes = .ok q.args := by
  rw [← Message.decodeReply_eq_ok_iff]
  cases hd : Message.decodeReply status args <;> simp [decode, hd]

theorem isByte_of_byte {t : UInt8} (h : status.integer? = some (t.toNat : Int)) :
    status.IsByte := by
  have ht : t.toNat < 256 := t.toNat_lt
  exact ⟨_, h, by omega, by omega⟩

theorem not_declared_of_coerced (h : Coerced status args) : ¬ Declared status args := by
  rintro ⟨⟨n, hn, _⟩, bs, hbs⟩
  obtain ⟨_, _, _, _, hnone | hsome⟩ := h
  · rw [hnone] at hn
    cases hn
  · exact hsome (Value.integer?_of_isArrayOf hbs)

theorem not_declared_of_faulty (h : Faulty status args) : ¬ Declared status args := by
  rintro ⟨⟨n, hn, _⟩, bs, hbs⟩
  rcases h with ⟨negative, rfl⟩ | ⟨_, f, _, hf, _⟩
  · cases hn
  · rw [Value.toBytes_of_isArrayOf hbs] at hf
    cases hf

/-- What decodes and is not declared is coerced. -/
theorem declared_or_coerced {q : Packet} (h : decode status args = .ok q) :
    Declared status args ∨ Coerced status args := by
  obtain ⟨ht, hb⟩ := decode_eq_ok_iff.mp h
  cases hs : status.integer? with
  | none => exact Or.inr ⟨q.tag, q.args, ht, hb, Or.inl hs⟩
  | some n =>
    cases ha : args.integer? with
    | some m => exact Or.inr ⟨q.tag, q.args, ht, hb, Or.inr (by simp [ha])⟩
    | none =>
      have hn : n = q.tag.toNat := by
        rw [Value.toInteger_of_integer? hs] at ht
        exact Except.ok.inj ht
      exact Or.inl ⟨isByte_of_byte (hn ▸ hs), q.args, Value.isArrayOf_of_toBytes hb ha⟩

theorem decode_of_declared {t : UInt8} {bs : Bytes} (ht : status.integer? = some (t.toNat : Int))
    (hbs : args.IsArrayOf bs) : decode status args = .ok ⟨t, bs⟩ :=
  decode_eq_ok_iff.mpr ⟨Value.toInteger_of_integer? ht, Value.toBytes_of_isArrayOf hbs⟩

theorem decode_of_coerced (h : Coerced status args) : ∃ q, decode status args = .ok q := by
  obtain ⟨t, bs, ht, hb, _⟩ := h
  exact ⟨⟨t, bs⟩, decode_eq_ok_iff.mpr ⟨ht, hb⟩⟩

theorem decode_of_faulty (h : Faulty status args) :
    ∃ f, decode status args = .error (.fault f) := by
  rcases h with ⟨negative, rfl⟩ | ⟨t, f, ht, hf, hfamily⟩
  · exact ⟨.infiniteInteger, rfl⟩
  · have hc : Message.checkTag .reply status = .ok t := Message.checkTag_eq_ok_iff.mpr ht
    exact ⟨f, by simp [decode, Message.decodeReply, hc, hf, hfamily]⟩

/-- What neither decodes nor ends in a fault is refused as a protocol error. -/
theorem decode_error_of_not_faulty {e : Failure} (h : decode status args = .error e)
    (hf : ¬ Faulty status args) : ∃ x, e = .protocol x := by
  rcases decode_error h with hp | ⟨_, hi⟩ | ⟨t, f, ht, hb, hfamily, _⟩
  · exact hp
  · exact absurd (Or.inl hi) hf
  · exact absurd (Or.inr ⟨t, f, ht, hb, hfamily⟩) hf

section Exchanged

variable {request : Message} {p : Packet} {expected v : Value} {k : Nat} {transport : Transport σ}
  {s : σ}

theorem result_of_fields (hp : request.encode .request = .ok p)
    (hk : expected.integer? = some (k : Int)) (hv : (transport p.tag p.args s).result = .ok v)
    (hpair : v.toPair = .ok (status, args)) (hl : ∀ bs, args.toBytes = .ok bs → k ≤ bs.length) :
    (exchange transport request expected s).result =
      match decode status args with
      | .ok q => .ok ⟨q.tag, q.args.take k⟩
      | .error e => .error e := by
  have hx := checkExpected_of_integer? hk
  rw [if_neg (by omega)] at hx
  rw [apply_of_encode hx hp, hv]
  simp only [settle, received, fields, hpair]
  cases hd : decode status args with
  | error e => rfl
  | ok q =>
    have hlen := hl q.args (decode_eq_ok_iff.mp hd).2
    simp only [trim_of_integer? hk, Int.toNat_natCast]
    rw [if_neg (by omega)]

/-- Fields of the declared kinds are taken, with as many bytes as are expected. Nothing else is taken
and all else is refused as a protocol error, exactly unless the fields are coerced or end in a
fault. -/
theorem strict_iff (hp : request.encode .request = .ok p)
    (hk : expected.integer? = some (k : Int)) (hv : (transport p.tag p.args s).result = .ok v)
    (hpair : v.toPair = .ok (status, args)) (hl : ∀ bs, args.toBytes = .ok bs → k ≤ bs.length) :
    let result := (exchange transport request expected s).result
    (Strict status args result ↔ ¬ Coerced status args ∧ ¬ Faulty status args) ∧
    (∀ (t : UInt8) (bs : Bytes), status.integer? = some (t.toNat : Int) → args.IsArrayOf bs →
      result = .ok ⟨t, bs.take k⟩) ∧
    (Coerced status args → ∃ q, result = .ok q) ∧
    (Faulty status args → ∃ f, result = .error (.fault f)) := by
  intro result
  have hresult : result = _ := result_of_fields hp hk hv hpair hl
  have hcoerced : Coerced status args → ∃ q, result = .ok q := fun h => by
    obtain ⟨q, hq⟩ := decode_of_coerced h
    exact ⟨_, by rw [hresult, hq]⟩
  have hfaulty : Faulty status args → ∃ f, result = .error (.fault f) := fun h => by
    obtain ⟨f, hf⟩ := decode_of_faulty h
    exact ⟨f, by rw [hresult, hf]⟩
  refine ⟨⟨fun h => ⟨fun hc => ?_, fun hf => ?_⟩, fun ⟨hc, hf⟩ => ?_⟩, fun t bs ht hbs => ?_,
    hcoerced, hfaulty⟩
  · obtain ⟨q, hq⟩ := hcoerced hc
    exact not_declared_of_coerced hc (h.taken q hq)
  · obtain ⟨f, he⟩ := hfaulty hf
    obtain ⟨x, hx⟩ := h.refused (not_declared_of_faulty hf)
    rw [he] at hx
    cases hx
  · cases hd : decode status args with
    | ok q =>
      have hdeclared := (declared_or_coerced hd).resolve_right hc
      exact ⟨fun _ _ => hdeclared, fun hn => absurd hdeclared hn⟩
    | error e =>
      obtain ⟨x, rfl⟩ := decode_error_of_not_faulty hd hf
      rw [hd] at hresult
      exact ⟨fun q hq => (by rw [hresult] at hq; cases hq), fun _ => ⟨x, hresult⟩⟩
  · rw [hresult, decode_of_declared ht hbs]

/-- A list of the numbers of its bytes is an argument array. -/
theorem strict_iff_listed :
    let status := Value.int 3
    let args := Value.list [.int 1, .int 2]
    let script : Script := [.returned (.list [status, args])]
    let result := (exchange Script.transport (.ofCommand .status) (.int 1) script).result
    Strict status args result ∧ ∃ q : Packet, result = .ok q ∧ q.tag = 3 ∧ q.args = [1] := by
  intro status args script result
  have hp : (Message.ofCommand .status).encode .request = .ok ⟨1, []⟩ := rfl
  have hk : (Value.int 1).integer? = some ((1 : Nat) : Int) := rfl
  have hl : ∀ bs, args.toBytes = .ok bs → 1 ≤ bs.length := fun bs h => by
    cases h
    decide
  obtain ⟨hstrict, htaken, _⟩ :=
    @strict_iff _ status args _ _ _ _ 1 Script.transport script hp hk rfl rfl hl
  have hresult := htaken 3 [1, 2] rfl (Or.inr ⟨_, rfl, rfl⟩)
  refine ⟨hstrict.mpr ⟨?_, ?_⟩, _, hresult, rfl, rfl⟩
  · rintro ⟨_, _, _, _, h | h⟩
    · cases h
    · exact h rfl
  · rintro (⟨negative, h⟩ | ⟨_, _, _, h, _⟩)
    · have h : Value.int 3 = .float (.infinite negative) := h
      cases h
    · cases h

/-- A digit that came as text is taken as the status. -/
theorem not_strict_text :
    let status := Value.text "1"
    let script : Script := [.returned (.list [status, .bytes []])]
    let result := (exchange Script.transport (.ofCommand .ping) (.int 0) script).result
    (∃ q : Packet, result = .ok q ∧ q.tag = 1 ∧ q.args = []) ∧
      ¬ Strict status (.bytes []) result := by
  intro status script result
  have hresult : result = .ok ⟨1, []⟩ := rfl
  refine ⟨⟨_, hresult, rfl, rfl⟩, fun h => ?_⟩
  obtain ⟨⟨n, hn, _⟩, _⟩ := h.taken _ hresult
  cases hn

end Exchanged

end Exchange

end MailboxControl
