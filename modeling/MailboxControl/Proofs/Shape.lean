import MailboxControl.Proofs.Lookup
import MailboxControl.Proofs.Reply
import MailboxControl.Request

/-! Requests of the shape that is declared for their command. What equals the number of a command builds
a request with exactly as many bytes as the command takes, and the codec packs and unpacks it unchanged.
-/

namespace MailboxControl

theorem Command.argsLength_le (c : Command) : c.argsLength ≤ maxArgs := by cases c <;> decide

theorem Command.toNat_byte (c : Command) : (UInt8.ofNat c.number).toNat = c.number := by
  rw [UInt8.toNat_ofNat', Nat.mod_eq_of_lt c.number_lt]

theorem Value.length_of_toBytes {v : Value} {n : Nat} {bs : Bytes} (hn : v.length = .ok n)
    (hb : v.toBytes = .ok bs) : bs.length = n := by
  cases v with
  | bytes given =>
    cases hb
    exact Except.ok.inj hn
  | list items =>
    have hitems := congrArg List.length (Value.mapM_toByte_eq_ok_iff.mp hb)
    rw [List.length_map, List.length_map] at hitems
    exact hitems.symm.trans (Except.ok.inj hn)
  | text s => cases hb
  | _ => cases hn

namespace Message

theorem build_eq_ok_iff {command args : Value} {m : Message} :
    build command args = .ok m ↔
      ∃ (c : Command) (bs : Bytes), command.same (.int c.number) = true ∧ args.length = .ok c.argsLength ∧
        args.toBytes = .ok bs ∧ m = ⟨command, .bytes bs⟩ := by
  simp only [← Value.toCommand_eq_ok_iff]
  unfold build
  cases command.toCommand with
  | error f => simp
  | ok c =>
    cases args.length with
    | error f => simp
    | ok n =>
      by_cases hn : n = c.argsLength
      · cases hb : args.toBytes with
        | error f => simp [hn]
        | ok bs => simp [hn, eq_comm]
      · cases command.nameOf <;> simp [hn]

/-- A request for a command by its own name fails only for the length of its arguments. -/
theorem build_command (c : Command) (bs : Bytes) :
    build (.code (.command c)) (.bytes bs) =
      if bs.length = c.argsLength then .ok ⟨.code (.command c), .bytes bs⟩
      else .error (.encoding (.wrongArgsLength c.name c.argsLength bs.length)) := by
  have hc : (Value.code (.command c)).toCommand = .ok c :=
    Value.toCommand_eq_ok_iff.mpr (Value.same_int_iff.mpr (Or.inl rfl))
  simp only [build, hc, Value.length, Value.toBytes, Value.nameOf, Code.name]

/-- What equals one command equals no other. -/
theorem same_number_iff {command : Value} {c : Command}
    (h : command.same (.int c.number) = true) (d : Command) :
    command.same (.int d.number) = true ↔ d = c := by
  constructor
  · intro hd
    exact Command.number_injective (Int.ofNat.inj (Value.eq_of_same hd h))
  · rintro rfl
    exact h

/-- A request that was built packs into the number of its command and the bytes of its arguments, as
many as the command takes, and the packet unpacks to an equal message. For a command and any bytes it is
built exactly if the length is right, and refused with an encoding error otherwise. -/
theorem build_packs :
    (∀ (command args : Value) (m : Message), build command args = .ok m →
      ∃ (c : Command) (p : Packet),
        (∀ d : Command, command.same (.int d.number) = true ↔ d = c) ∧
        m = ⟨command, .bytes p.args⟩ ∧
        m.encode .request = .ok p ∧ p.tag.toNat = c.number ∧
        args.toBytes = .ok p.args ∧ args.length = .ok p.args.length ∧
        p.args.length = c.argsLength ∧
        ∃ q, decodeRequest (.int p.tag.toNat) (.bytes p.args) = .ok q ∧
          q.toMessage.same m = true) ∧
    ∀ (c : Command) (bs : Bytes),
      ((∃ m, build (.code (.command c)) (.bytes bs) = .ok m) ↔ bs.length = c.argsLength) ∧
      ∀ e, build (.code (.command c)) (.bytes bs) = .error e → ∃ x, e = .encoding x := by
  refine ⟨fun command args m h => ?_, fun c bs => ?_⟩
  · obtain ⟨c, bs, hc, hn, hb, rfl⟩ := build_eq_ok_iff.mp h
    have hl := Value.length_of_toBytes hn hb
    have hmax : bs.length ≤ maxArgs := hl ▸ c.argsLength_le
    have htag := c.toNat_byte
    have he : encode .request ⟨command, .bytes bs⟩ = .ok ⟨UInt8.ofNat c.number, bs⟩ :=
      encode_eq_ok_iff.mpr ⟨by rw [Value.toInteger_of_same hc, htag], rfl, hmax⟩
    have hd := @decode_packet .request ⟨UInt8.ofNat c.number, bs⟩ fun _ => hmax
    have hsame : (Value.int (UInt8.ofNat c.number).toNat).same command = true := by
      rw [htag]
      exact Value.int_same hc
    exact ⟨c, _, same_number_iff hc, rfl, he, htag, hb, by rw [hn, hl], hl, _, hd,
      same_of_tag hsame rfl⟩
  · rw [build_command]
    by_cases hl : bs.length = c.argsLength
    · simp [hl]
    · simp [hl]

/-- Resuming is also asked for by the number 4.0, and a list of one flag is its argument. -/
theorem build_packs_float :
    let four : Value := .float (.finite false 1025 0)
    let args : Value := .list [.bool true]
    build four args = .ok ⟨four, .bytes [1]⟩ ∧
      encode .request ⟨four, .bytes [1]⟩ = .ok ⟨4, [1]⟩ := by
  intro four args
  have hb : build four args = .ok ⟨four, .bytes [1]⟩ :=
    build_eq_ok_iff.mpr ⟨.resume, [1], by decide +kernel, rfl, rfl, rfl⟩
  obtain ⟨c, ⟨tag, bs⟩, hc, hm, he, htag, hbytes, _⟩ := build_packs.1 four args _ hb
  have hr : Command.resume = c := (hc .resume).mp (by decide +kernel)
  subst hr
  have ht : tag = 4 := UInt8.toNat_inj.mp htag
  have hbs : [1] = bs := Except.ok.inj hbytes
  exact ⟨hb, by rw [he, ht, hbs]⟩

end Message

end MailboxControl
