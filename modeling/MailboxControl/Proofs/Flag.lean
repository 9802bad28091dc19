import MailboxControl.Operation

/-! Flags for resuming, as they are given from outside. Three values ask for each of the two flags,
and for any other value there is no request. -/

namespace MailboxControl

def Value.IsFlag : Value → Prop
  | .bool _ | .code (.flag _) => True
  | .text s => s = "0" ∨ s = "1"
  | _ => False

/-- The values that ask for a flag. -/
def Value.AsksFor (v : Value) : ResumeFlag → Prop
  | .flashModified => v = .text "1" ∨ v = .bool true ∨ v = .code (.flag .flashModified)
  | .notModified => v = .text "0" ∨ v = .bool false ∨ v = .code (.flag .notModified)

namespace ResumeFlag

theorem byte_injective {a b : ResumeFlag} (h : a.byte = b.byte) : a = b := by
  cases a <;> cases b <;> first | rfl | exact absurd h (by decide)

theorem parse_eq_ok_iff {v : Value} {flag : ResumeFlag} : parse v = .ok flag ↔ v.AsksFor flag := by
  cases v with
  | bool b => cases b <;> cases flag <;> simp [parse, Value.AsksFor]
  | text s =>
    by_cases h1 : s = "1"
    · cases flag <;> simp [parse, Value.AsksFor, h1]
    · by_cases h0 : s = "0"
      · cases flag <;> simp [parse, Value.AsksFor, h0]
      · cases flag <;> simp [parse, Value.AsksFor, h0, h1]
  | code c =>
    cases c with
    | flag f => cases f <;> cases flag <;> simp [parse, Value.AsksFor]
    | _ => cases flag <;> simp [parse, Value.AsksFor]
  | _ => cases flag <;> simp [parse, Value.AsksFor]

theorem parse_of_isFlag {v : Value} (h : v.IsFlag) : ∃ flag, parse v = .ok flag := by
  cases v with
  | bool b => exact ⟨_, rfl⟩
  | text s => rcases h with rfl | rfl <;> exact ⟨_, rfl⟩
  | code c =>
    cases c with
    | flag f => exact ⟨f, rfl⟩
    | _ => cases h
  | _ => cases h

theorem parse_of_not_isFlag {v : Value} (h : ¬ v.IsFlag) :
    parse v = .error (.validation (.resumeArgument v)) := by
  cases v with
  | bool b => exact absurd trivial h
  | text s =>
    have h0 : s ≠ "0" := fun hs => h (Or.inl hs)
    have h1 : s ≠ "1" := fun hs => h (Or.inr hs)
    simp [parse, h0, h1]
  | code c =>
    cases c with
    | flag f => exact absurd trivial h
    | _ => rfl
  | _ => rfl

theorem parse_error {v : Value} {e : Failure} (h : parse v = .error e) :
    e = .validation (.resumeArgument v) := by
  by_cases hv : v.IsFlag
  · obtain ⟨flag, hp⟩ := parse_of_isFlag hv
    rw [hp] at h
    cases h
  · rw [parse_of_not_isFlag hv] at h
    exact (Except.error.inj h).symm

end ResumeFlag

theorem Value.isFlag_iff {v : Value} : v.IsFlag ↔ ∃ flag, v.AsksFor flag := by
  constructor
  · intro h
    obtain ⟨flag, hp⟩ := ResumeFlag.parse_of_isFlag h
    exact ⟨flag, ResumeFlag.parse_eq_ok_iff.mp hp⟩
  · rintro ⟨flag, h⟩
    have hp := ResumeFlag.parse_eq_ok_iff.mpr h
    by_cases hv : v.IsFlag
    · exact hv
    · rw [ResumeFlag.parse_of_not_isFlag hv] at hp
      cases hp

namespace Operation

theorem request_of_flag {v : Value} {flag : ResumeFlag} (hp : ResumeFlag.parse v = .ok flag) :
    resume.request (some v) = .ok (Message.ofResume flag) := by
  simp only [request, hp]

/-- What an operation can be given: a flag for resuming and otherwise nothing. -/
def Takes (op : Operation) (arg : Option Value) : Prop :=
  (arg.isSome = true ↔ op = .resume) ∧ ∀ v, arg = some v → v.IsFlag

theorem request_of_takes {op : Operation} {arg : Option Value} (h : op.Takes arg) :
    ∃ m, op.request arg = .ok m := by
  obtain ⟨hop, hv⟩ := h
  cases arg with
  | none =>
    have hne : op ≠ .resume := fun hr => by simpa using hop.mpr hr
    cases op with
    | resume => exact absurd rfl hne
    | _ => exact ⟨_, rfl⟩
  | some v =>
    have hr : op = .resume := hop.mp rfl
    subst hr
    obtain ⟨flag, hp⟩ := ResumeFlag.parse_of_isFlag (hv v rfl)
    exact ⟨Message.ofResume flag, request_of_flag hp⟩

theorem request_of_not_isFlag {v : Value} (h : ¬ v.IsFlag) :
    resume.request (some v) = .error (.validation (.resumeArgument v)) := by
  simp only [request, ResumeFlag.parse_of_not_isFlag h]

end Operation

end MailboxControl
