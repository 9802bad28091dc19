import MailboxControl.Proofs.Codec

/-! Looking up data by a number. What equals a whole number is read as that number, so it equals no
other one, and a search among codes with different numbers finds the code whose number it equals. -/

namespace MailboxControl

namespace Value

variable {v : Value} {n m : Int}

/-- Flags, integers and codes equal the integer behind them, floating-point numbers the whole number
that they are, and other data equals no number. -/
theorem same_int_iff :
    v.same (.int n) = true ↔ v.integer? = some n ∨ ∃ x, v = .float x ∧ x.whole? = some n := by
  cases v with
  | float x => simp [same, number?, integer?, Number.same]
  | bool b => cases b <;> simp [same, number?, integer?, Number.same]
  | int k => simp [same, number?, integer?, Number.same]
  | code c => simp [same, number?, integer?, Number.same]
  | _ => simp [same, number?, integer?]

theorem toInteger_of_same (h : v.same (.int n) = true) : v.toInteger = .ok n := by
  rcases same_int_iff.mp h with hi | ⟨x, rfl, hw⟩
  · exact toInteger_of_integer? hi
  · have ht := Binary64.truncate?_of_whole? hw
    cases x with
    | infinite negative => cases ht
    | _ => simp only [toInteger, ht]

theorem eq_of_same (hn : v.same (.int n) = true) (hm : v.same (.int m) = true) : n = m :=
  Except.ok.inj ((toInteger_of_same hn).symm.trans (toInteger_of_same hm))

theorem int_same (h : v.same (.int n) = true) : (int n).same v = true := by
  rcases same_int_iff.mp h with hi | ⟨x, rfl, hw⟩
  · exact same_of_integer? hi
  · simp [same, number?, integer?, Number.same, hw]

theorem find?_eq_some_iff {α : Type} {number : α → Nat} {candidates : List α} {a : α}
    (hinj : ∀ b, number b = number a → b = a) (hmem : a ∈ candidates) :
    v.find? number candidates = some a ↔ v.same (.int (number a)) = true := by
  unfold find?
  constructor
  · intro h
    simpa using List.find?_some h
  · intro h
    cases hf : candidates.find? (fun b => v.same (.int (number b))) with
    | none => exact absurd h (List.find?_eq_none.mp hf a hmem)
    | some b =>
      have hb : v.same (.int (number b)) = true := by simpa using List.find?_some hf
      rw [hinj b (Int.ofNat.inj (eq_of_same hb h))]

theorem isKey_of_same (h : v.same (.int n) = true) : v.isKey = true := by
  cases v with
  | list xs => simp [same, number?, integer?] at h
  | _ => rfl

theorem toCommand_eq_ok_iff {c : Command} :
    v.toCommand = .ok c ↔ v.same (.int c.number) = true := by
  have hfind := @find?_eq_some_iff v _ Command.number Command.all c
    (fun _ => Command.number_injective) c.mem_all
  rw [← hfind, toCommand]
  constructor
  · intro h
    split at h
    · split at h
      · next hf => rw [hf, Except.ok.inj h]
      · cases h
    · cases h
  · intro h
    simp [isKey_of_same (hfind.mp h), h]

end Value

theorem Status.mem_all (s : Status) : s ∈ all := by cases s <;> decide

theorem Status.number_injective {s t : Status} (h : s.number = t.number) : s = t := by
  cases s <;> cases t <;> first | rfl | cases h

theorem Value.toStatus?_eq_some_iff {v : Value} {s : Status} :
    v.toStatus? = some s ↔ v.same (.int s.number) = true :=
  find?_eq_some_iff (fun _ => Status.number_injective) s.mem_all

end MailboxControl
