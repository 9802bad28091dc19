import MailboxControl.Proofs.CommandLine.Report
import MailboxControl.Proofs.Lookup

/-! Success as the views of a verdict see it. A status counts as a success by its number and is described
by a search for its code, and the two agree for data of every kind, so that the phrase, the exit code, the
report and the error of a caller that wants success never contradict each other. -/

namespace MailboxControl

open MailboxControl.Action CommandLine

namespace Binary64

theorem whole?_eq_zero_iff (x : Binary64) : x.whole? = some 0 ↔ x.units? = some 0 := by
  unfold whole?
  cases x.units? with
  | none => simp
  | some u =>
    dsimp only
    constructor
    · intro h
      split at h
      · next hm =>
        have hd : u / one = 0 := Option.some.inj h
        have hu := Int.mul_ediv_add_emod u one
        rw [hd, hm] at hu
        simpa using hu.symm
      · cases h
    · intro h
      cases h
      simp

theorem whole?_neg_eq_zero_iff (x : Binary64) : x.neg.whole? = some 0 ↔ x.whole? = some 0 := by
  rw [whole?_eq_zero_iff, whole?_eq_zero_iff, units?_neg]
  cases x.units? with
  | none => simp
  | some u => simp

end Binary64

theorem Number.neg_same_zero_iff (n : Number) :
    n.neg.same (.whole 0) = true ↔ n.same (.whole 0) = true := by
  cases n with
  | whole k => simp [Number.neg, same]
  | real x => simp [Number.neg, same, x.whole?_neg_eq_zero_iff]

namespace Value

variable {v : Value}

theorem isSuccess_iff : v.isSuccess = true ↔ v.toStatus? = some .success := by
  rw [toStatus?_eq_some_iff, isSuccess]

theorem phrase_eq_iff {s : Status} : v.phrase = s.phrase ↔ v.toStatus? = some s := by
  unfold phrase
  cases v.toStatus? with
  | none => simp [s.phrase_ne_unknownPhrase.symm]
  | some t =>
    simp only [Option.some.injEq]
    constructor
    · exact Status.phrase_injective
    · rintro rfl
      rfl

theorem phrase_eq_unknown_iff : v.phrase = Status.unknownPhrase ↔ v.toStatus? = none := by
  unfold phrase
  cases v.toStatus? with
  | none => simp
  | some t => simp [t.phrase_ne_unknownPhrase]

theorem toStatus?_eq_none_iff :
    v.toStatus? = none ↔ ∀ s : Status, v.same (.int s.number) = false := by
  rw [Option.eq_none_iff_forall_ne_some]
  simp only [Ne, toStatus?_eq_some_iff, Bool.not_eq_true]

theorem same_int_of_number? {n : Number} (h : v.number? = some n) (k : Int) :
    v.same (.int k) = n.same (.whole k) := by
  cases v with
  | float x => cases h; simp [same, number?, integer?]
  | bool b => cases h; simp [same, number?, integer?]
  | int m => cases h; simp [same, number?, integer?]
  | code c => cases h; simp [same, number?, integer?]
  | _ => cases h

end Value

namespace Verdict

variable {v : Verdict}

theorem accept_of_ok (h : v.ok = true) : v.accept = .ok v := by simp [accept, h]

theorem accept_of_not_ok (h : v.ok = false) :
    v.accept = .error (.daemon (.text v.operation) v.status (.text v.message)) := by
  simp [accept, h]

theorem exitCode_of_number? {n : Number} (h : v.status.number? = some n) :
    v.exitCode = .ok n.neg := by
  simp only [exitCode, Value.negated, h]

theorem neg_same_zero_iff {n : Number} (h : v.status.number? = some n) :
    n.neg.same (.whole 0) = true ↔ v.ok = true := by
  rw [n.neg_same_zero_iff, ← Value.same_int_of_number? h]
  rfl

theorem report_of_number? {n : Number} (h : v.status.number? = some n)
    (hop : v.operation ≠ "Status") {σ : Type} (s : σ) :
    report v s = ⟨.ok n.neg, s, [.printed (v.operation ++ ": " ++ v.message)]⟩ := by
  have ht : ¬ v.operation = Operation.status.title := hop
  unfold report
  rw [if_neg ht, emit_bind, exitCode_of_number? h]
  rfl

/-- A verdict counts as a success exactly if its phrase says so and exactly if a caller that wants
success gets it back; otherwise that caller gets the daemon's error with all of it. The phrase is that of
the one known status that the status equals, or the common phrase of the unknown ones. A status that is a
number gives its negation as the exit code, which is zero exactly for a success and which the report
ends with. -/
theorem views_agree (v : Verdict) :
    (v.ok = true ↔ v.message = "Success") ∧
    (v.ok = true ↔ v.accept = .ok v) ∧
    (v.ok = false →
      v.accept = .error (.daemon (.text v.operation) v.status (.text v.message))) ∧
    (∀ s : Status, v.message = s.phrase ↔ v.status.same (.int s.number) = true) ∧
    (v.message = "Failed - Unknown Error" ↔
      ∀ s : Status, v.status.same (.int s.number) = false) ∧
    ∀ n, v.status.number? = some n →
      v.exitCode = .ok n.neg ∧ (n.neg.same (.whole 0) = true ↔ v.ok = true) ∧
      (v.operation ≠ "Status" → ∀ (σ : Type) (s : σ),
        report v s = ⟨.ok n.neg, s, [.printed (v.operation ++ ": " ++ v.message)]⟩) := by
  have hphrase : v.ok = true ↔ v.message = Status.success.phrase := by
    rw [ok, Value.isSuccess_iff, message, Value.phrase_eq_iff]
  refine ⟨hphrase, ⟨accept_of_ok, fun h => ?_⟩, accept_of_not_ok, fun s => ?_, ?_,
    fun n h => ⟨exitCode_of_number? h, neg_same_zero_iff h,
      fun hop σ s => report_of_number? h hop s⟩⟩
  · cases hok : v.ok with
    | true => rfl
    | false =>
      rw [accept_of_not_ok hok] at h
      cases h
  · rw [message, Value.phrase_eq_iff, Value.toStatus?_eq_some_iff]
  · rw [← Value.toStatus?_eq_none_iff, ← Value.phrase_eq_unknown_iff]
    rfl

/-- The negative zero is a success, and the exit code is then the positive one. -/
theorem views_agree_negative_zero :
    let v : Verdict := ⟨"Reset", .float (.finite true 0 0), .null⟩
    v.ok = true ∧ v.message = "Success" ∧ v.accept = .ok v ∧
      v.exitCode = .ok (.real (.finite false 0 0)) ∧
      report v () = ⟨.ok (.real (.finite false 0 0)), (), [.printed "Reset: Success"]⟩ := by
  intro v
  obtain ⟨hmessage, haccept, _, _, _, hnumber⟩ := views_agree v
  obtain ⟨hcode, hzero, hreport⟩ := hnumber (.real (.finite true 0 0)) rfl
  have hok : v.ok = true := hzero.mp (by decide +kernel)
  have hline := hreport (by decide) Unit ()
  rw [hmessage.mp hok] at hline
  exact ⟨hok, hmessage.mp hok, haccept.mp hok, hcode, hline⟩

end Verdict

end MailboxControl
