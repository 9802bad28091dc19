import MailboxControl.Message

/-! The codec as a normaliser. A message packs exactly if its tag reads as an integer of one byte and
its arguments give at most 255 bytes. The packet holds these and nothing else, so packing what was
unpacked gives the packet back; only a reply with more bytes unpacks without packing again. -/

namespace MailboxControl

namespace Value

theorem toInteger_of_integer? {v : Value} {n : Int} (h : v.integer? = some n) :
    v.toInteger = .ok n := by
  cases v with
  | bool b => simp only [toInteger, h]
  | int m => simp only [toInteger, h]
  | code c => simp only [toInteger, h]
  | _ => cases h

/-- Only an infinite number fails to be an integer without being refused as one. -/
theorem toInteger_eq_infinite_iff (v : Value) :
    v.toInteger = .error .infinite ↔ ∃ negative, v = .float (.infinite negative) := by
  constructor
  · intro h
    cases v with
    | float x =>
      cases x with
      | infinite negative => exact ⟨negative, rfl⟩
      | nan => simp [Value.toInteger, Binary64.truncate?, Binary64.units?] at h
      | finite negative e f => simp [Value.toInteger, Binary64.truncate?, Binary64.units?] at h
    | text s => cases hs : Text.readInteger s.toList <;> simp [Value.toInteger, hs] at h
    | bytes bs => cases hs : Text.readIntegerBytes bs <;> simp [Value.toInteger, hs] at h
    | _ => simp [Value.toInteger, Value.integer?] at h
  · rintro ⟨negative, rfl⟩
    rfl

theorem number?_of_integer? {v : Value} {n : Int} (h : v.integer? = some n) :
    v.number? = some (.whole n) := by
  cases v with
  | float x => cases h
  | _ => simp only [number?, h, Option.map_some]

theorem same_of_integer? {v : Value} {n : Int} (h : v.integer? = some n) :
    (int n).same v = true := by
  cases v with
  | bool b => cases h; simp [same, number?, integer?, Number.same]
  | int m => cases h; simp [same, number?, integer?, Number.same]
  | code c => cases h; simp [same, number?, integer?, Number.same]
  | _ => cases h

end Value

namespace Message

variable {direction : Direction}

theorem checkTag_of_integer {tag : Value} {n : Int} (h : tag.toInteger = .ok n) :
    checkTag direction tag =
      if 0 ≤ n ∧ n ≤ maxTag then .ok (UInt8.ofNat n.toNat)
      else .error (.encoding (.tagNotByte direction tag)) := by
  simp only [checkTag, h]

theorem checkTag_error {tag : Value} {e : Failure} (h : checkTag direction tag = .error e) :
    (∃ x, e = .encoding x) ∨
      e = .fault .infiniteInteger ∧ ∃ negative, tag = .float (.infinite negative) := by
  cases hn : tag.toInteger with
  | ok n =>
    rw [checkTag_of_integer hn] at h
    split at h
    · cases h
    · exact Or.inl ⟨_, (Except.error.inj h).symm⟩
  | error fault =>
    simp only [checkTag, hn] at h
    cases fault with
    | infinite =>
      exact Or.inr ⟨(Except.error.inj h).symm, (Value.toInteger_eq_infinite_iff tag).mp hn⟩
    | unreadable => exact Or.inl ⟨_, (Except.error.inj h).symm⟩
    | unsuitable => exact Or.inl ⟨_, (Except.error.inj h).symm⟩

theorem toNat_byte {n : Int} (h : 0 ≤ n ∧ n ≤ 255) : ((UInt8.ofNat n.toNat).toNat : Int) = n := by
  rw [UInt8.toNat_ofNat']
  omega

theorem checkTag_eq_ok_iff {tag : Value} {t : UInt8} :
    checkTag direction tag = .ok t ↔ tag.toInteger = .ok (t.toNat : Int) := by
  have hmax : ((maxTag : Nat) : Int) = 255 := rfl
  constructor
  · intro h
    cases hn : tag.toInteger with
    | error fault => cases fault <;> simp [checkTag, hn] at h
    | ok n =>
      rw [checkTag_of_integer hn] at h
      split at h
      · next hr =>
        cases h
        rw [toNat_byte (by omega)]
      · cases h
  · intro h
    have ht : t.toNat < 256 := t.toNat_lt
    rw [checkTag_of_integer h, if_pos (by omega), Int.toNat_natCast, UInt8.ofNat_toNat]

theorem checkArgs_of_bytes {args : Value} {bs : Bytes} (h : args.toBytes = .ok bs) :
    checkArgs direction args =
      if bs.length ≤ maxArgs then .ok bs else .error (.encoding (.tooManyArgs direction bs.length)) := by
  have hc : args.byteCount = .ok bs.length := by rw [args.byteCount_eq_map_length, h]; rfl
  simp only [checkArgs, hc, h]
  rfl

theorem checkArgs_eq_ok_iff {args : Value} {bs : Bytes} :
    checkArgs direction args = .ok bs ↔ args.toBytes = .ok bs ∧ bs.length ≤ maxArgs := by
  cases hb : args.toBytes with
  | error f =>
    have hc : args.byteCount = .error f := by rw [args.byteCount_eq_map_length, hb]; rfl
    simp [checkArgs, hc]
  | ok given =>
    rw [checkArgs_of_bytes hb]
    by_cases hl : given.length ≤ maxArgs
    · simp only [hl, if_true, Except.ok.injEq]
      exact ⟨fun h => ⟨h, h ▸ hl⟩, fun h => h.1⟩
    · simp only [hl, if_false, Except.ok.injEq]
      exact ⟨fun h => (by cases h), fun h => absurd (h.1 ▸ h.2) hl⟩

theorem encode_eq_ok_iff {m : Message} {p : Packet} :
    m.encode direction = .ok p ↔
      m.tag.toInteger = .ok (p.tag.toNat : Int) ∧ m.args.toBytes = .ok p.args ∧
        p.args.length ≤ maxArgs := by
  rw [← @checkTag_eq_ok_iff direction, ← @checkArgs_eq_ok_iff direction]
  unfold encode
  cases checkTag direction m.tag with
  | error e => simp
  | ok tag =>
    cases checkArgs direction m.args with
    | error e => simp
    | ok args =>
      obtain ⟨t, bs⟩ := p
      simp

theorem decodeReply_eq_ok_iff {tag args : Value} {p : Packet} :
    decodeReply tag args = .ok p ↔
      tag.toInteger = .ok (p.tag.toNat : Int) ∧ args.toBytes = .ok p.args := by
  rw [← @checkTag_eq_ok_iff .reply]
  unfold decodeReply
  cases checkTag .reply tag with
  | error e => simp
  | ok status =>
    cases hb : args.toBytes with
    | error f => by_cases hf : f.family = .type <;> simp [hf]
    | ok given =>
      obtain ⟨t, bs⟩ := p
      simp

/-- The argument bytes that unpack. Replies may carry any number of them. -/
def Unpacks (direction : Direction) (bs : Bytes) : Prop :=
  direction = .request → bs.length ≤ maxArgs

theorem decode_eq_ok_iff {tag args : Value} {p : Packet} :
    decode direction tag args = .ok p ↔
      tag.toInteger = .ok (p.tag.toNat : Int) ∧ args.toBytes = .ok p.args ∧
        Unpacks direction p.args := by
  cases direction with
  | request => simpa [decode, decodeRequest, Unpacks] using encode_eq_ok_iff
  | reply => simpa [decode, Unpacks] using decodeReply_eq_ok_iff

theorem encode_toMessage {p : Packet} (h : p.args.length ≤ maxArgs) :
    p.toMessage.encode direction = .ok p := encode_eq_ok_iff.mpr ⟨rfl, rfl, h⟩

theorem decode_packet {p : Packet} (h : Unpacks direction p.args) :
    decode direction (.int p.tag.toNat) (.bytes p.args) = .ok p :=
  decode_eq_ok_iff.mpr ⟨rfl, rfl, h⟩

theorem same_of_tag {m : Message} {p : Packet} (ht : (Value.int p.tag.toNat).same m.tag = true)
    (hb : m.args = .bytes p.args) : p.toMessage.same m = true := by
  have hall : (Value.bytes p.args).same m.args = true := by
    rw [hb]
    simp [Value.same]
  simp only [same, Packet.toMessage, ht, hall, Bool.and_self]

theorem toMessage_same {m : Message} {p : Packet} {n : Int} {bs : Bytes}
    (h : m.encode direction = .ok p) (ht : m.tag.integer? = some n) (hb : m.args = .bytes bs) :
    p.toMessage.same m = true := by
  obtain ⟨htag, hargs, _⟩ := encode_eq_ok_iff.mp h
  have hn : n = p.tag.toNat := by
    rw [Value.toInteger_of_integer? ht] at htag
    exact Except.ok.inj htag
  have hbs : bs = p.args := by
    rw [hb] at hargs
    exact Except.ok.inj hargs
  exact same_of_tag (Value.same_of_integer? (hn ▸ ht)) (hbs ▸ hb)

section Parts

variable {tag args : Value} {t : Int} {bs : Bytes}

theorem encode_of_parts (ht : tag.toInteger = .ok t) (hb : args.toBytes = .ok bs) :
    encode direction ⟨tag, args⟩ =
      if 0 ≤ t ∧ t ≤ maxTag then
        if bs.length ≤ maxArgs then .ok ⟨UInt8.ofNat t.toNat, bs⟩
        else .error (.encoding (.tooManyArgs direction bs.length))
      else .error (.encoding (.tagNotByte direction tag)) := by
  unfold encode
  rw [checkTag_of_integer ht, checkArgs_of_bytes hb]
  by_cases hr : 0 ≤ t ∧ t ≤ maxTag
  · by_cases hl : bs.length ≤ maxArgs <;> simp [hr, hl]
  · simp [hr]

theorem decodeReply_of_parts (ht : tag.toInteger = .ok t) (hb : args.toBytes = .ok bs) :
    decodeReply tag args =
      if 0 ≤ t ∧ t ≤ maxTag then .ok ⟨UInt8.ofNat t.toNat, bs⟩
      else .error (.encoding (.tagNotByte .reply tag)) := by
  unfold decodeReply
  rw [checkTag_of_integer ht, hb]
  by_cases hr : 0 ≤ t ∧ t ≤ maxTag <;> simp [hr]

theorem encode_error_of_parts (ht : tag.toInteger = .ok t) (hb : args.toBytes = .ok bs)
    {e : Failure} (h : encode direction ⟨tag, args⟩ = .error e) : ∃ x, e = .encoding x := by
  rw [encode_of_parts ht hb] at h
  split at h
  · split at h
    · cases h
    · exact ⟨_, (Except.error.inj h).symm⟩
  · exact ⟨_, (Except.error.inj h).symm⟩

theorem decode_error_of_parts (ht : tag.toInteger = .ok t) (hb : args.toBytes = .ok bs)
    {e : Failure} (h : decode direction tag args = .error e) : ∃ x, e = .encoding x := by
  cases direction with
  | request => exact encode_error_of_parts ht hb h
  | reply =>
    rw [decode, decodeReply_of_parts ht hb] at h
    split at h
    · cases h
    · exact ⟨_, (Except.error.inj h).symm⟩

theorem encode_toMessage_of_long {p : Packet} (h : maxArgs < p.args.length) :
    p.toMessage.encode direction =
      .error (.encoding (.tooManyArgs direction p.args.length)) := by
  have ht : (Value.int p.tag.toNat).toInteger = .ok (p.tag.toNat : Int) := rfl
  have hb : (Value.bytes p.args).toBytes = .ok p.args := rfl
  have hmax : maxTag = 255 := rfl
  have hlt : p.tag.toNat < 256 := p.tag.toNat_lt
  rw [Packet.toMessage, encode_of_parts ht hb, if_pos (by omega), if_neg (by omega)]

theorem exists_byte_iff : (∃ b : UInt8, (b.toNat : Int) = t) ↔ 0 ≤ t ∧ t ≤ 255 := by
  constructor
  · rintro ⟨b, rfl⟩
    have hb : b.toNat < 256 := b.toNat_lt
    omega
  · intro ht
    exact ⟨UInt8.ofNat t.toNat, toNat_byte ht⟩

theorem exists_packet_iff (ht : tag.toInteger = .ok t) (hb : args.toBytes = .ok bs)
    (P : Bytes → Prop) :
    (∃ p : Packet, tag.toInteger = .ok (p.tag.toNat : Int) ∧ args.toBytes = .ok p.args ∧ P p.args) ↔
      0 ≤ t ∧ t ≤ 255 ∧ P bs := by
  rw [ht, hb, ← and_assoc, ← exists_byte_iff]
  constructor
  · rintro ⟨p, hp, hargs, h⟩
    exact ⟨⟨p.tag, (Except.ok.inj hp).symm⟩, (Except.ok.inj hargs) ▸ h⟩
  · rintro ⟨⟨b, rfl⟩, h⟩
    exact ⟨⟨b, bs⟩, rfl, rfl, h⟩

end Parts

/-- Packing is a normal form in both directions: a packet unpacks, packs again into itself, and gives
an equal message where the message had an integer and bytes. Integers and bytes pack and unpack exactly
in their ranges and are refused with an encoding error beyond, except that replies of any length unpack
and the long ones cannot be packed again. -/
theorem encode_decode (direction : Direction) :
    (∀ (m : Message) (p : Packet), m.encode direction = .ok p →
      m.tag.toInteger = .ok (p.tag.toNat : Int) ∧ p.tag.toNat ≤ 255 ∧
      m.args.toBytes = .ok p.args ∧ p.args.length ≤ 255 ∧
      ∃ q, decode direction (.int p.tag.toNat) (.bytes p.args) = .ok q ∧
        q.toMessage.encode direction = .ok p ∧
        ∀ n bs, m.tag.integer? = some n → m.args = .bytes bs → q.toMessage.same m = true) ∧
    ∀ (tag : Value) (t : Int) (bs : Bytes), tag.integer? = some t →
      let packed := encode direction ⟨tag, .bytes bs⟩
      let unpacked := decode direction tag (.bytes bs)
      ((∃ p, packed = .ok p) ↔ 0 ≤ t ∧ t ≤ 255 ∧ bs.length ≤ 255) ∧
      ((∃ q, unpacked = .ok q) ↔ 0 ≤ t ∧ t ≤ 255 ∧ (direction = .request → bs.length ≤ 255)) ∧
      (∀ e, packed = .error e → ∃ x, e = .encoding x) ∧
      (∀ e, unpacked = .error e → ∃ x, e = .encoding x) ∧
      ∀ q, unpacked = .ok q →
        (bs.length ≤ 255 →
          ∃ p, q.toMessage.encode direction = .ok p ∧ (p.tag.toNat : Int) = t ∧ p.args = bs) ∧
        (255 < bs.length → ∃ x, q.toMessage.encode direction = .error (.encoding x)) := by
  refine ⟨fun m p h => ?_, fun tag t bs htag => ?_⟩
  · obtain ⟨ht, hb, hl⟩ := encode_eq_ok_iff.mp h
    have hlt : p.tag.toNat < 256 := p.tag.toNat_lt
    exact ⟨ht, by omega, hb, hl, p, decode_packet fun _ => hl, encode_toMessage hl,
      fun n bs => toMessage_same h⟩
  · have ht := Value.toInteger_of_integer? htag
    have hb : (Value.bytes bs).toBytes = .ok bs := rfl
    refine ⟨?_, ?_, fun e => encode_error_of_parts ht hb, fun e => decode_error_of_parts ht hb,
      fun q h => ?_⟩
    · simp only [encode_eq_ok_iff]
      exact exists_packet_iff ht hb fun given => given.length ≤ maxArgs
    · simp only [decode_eq_ok_iff]
      exact exists_packet_iff ht hb (Unpacks direction)
    · obtain ⟨hqt, hqb, _⟩ := decode_eq_ok_iff.mp h
      have htq : (q.tag.toNat : Int) = t := Except.ok.inj (hqt.symm.trans ht)
      have hbq : q.args = bs := (Except.ok.inj hqb).symm
      exact ⟨fun hl => ⟨q, encode_toMessage (hbq ▸ hl), htq, hbq⟩,
        fun hl => ⟨_, encode_toMessage_of_long (hbq ▸ hl)⟩⟩

end Message

end MailboxControl
