import MailboxControl.Proofs.CommandLine.Options
import MailboxControl.Proofs.CommandLine.View

/-! Asking for debug logging. The option changes which log records are shown and nothing else: with it in
front a command line is read in the same way, runs the same operation and ends in the same way, and its
error output has at most lines of log records put into it. -/

namespace MailboxControl

/-- The line that shows a log record. -/
def LogRecord.line (r : LogRecord) : String :=
  r.level.name ++ ":" ++ r.logger.name ++ ":" ++ r.message ++ "\n"

/-- The second text is the first one with lines of log records put in between its lines. -/
inductive GainsRecords : String → String → Prop where
  | refl (text : String) : GainsRecords text text
  | keep {less more : String} (line : String) (rest : GainsRecords less more) :
    GainsRecords (line ++ "\n" ++ less) (line ++ "\n" ++ more)
  | record {less more : String} (r : LogRecord) (rest : GainsRecords less more) :
    GainsRecords less (r.line ++ more)

namespace Trace

theorem errors_logged_cons (shown : LogRecord → Bool) (r : LogRecord) (t : Trace) :
    errors shown (.logged r :: t) = if shown r then r.line ++ errors shown t else errors shown t := by
  rw [errors_cons]
  cases h : shown r <;> simp [errors, h, LogRecord.line]

/-- Showing more of the log records adds their lines. -/
theorem errors_gain {few many : LogRecord → Bool} (h : ∀ r, few r = true → many r = true)
    (t : Trace) : GainsRecords (t.errors few) (t.errors many) := by
  induction t with
  | nil => exact .refl _
  | cons e t ih =>
    cases e with
    | logged r =>
      rw [errors_logged_cons, errors_logged_cons]
      cases hf : few r with
      | true =>
        rw [h r hf]
        exact .keep _ ih
      | false =>
        cases many r with
        | true => exact .record r ih
        | false => exact ih
    | complained line =>
      rw [errors_cons few, errors_cons many]
      simpa [errors] using GainsRecords.keep line ih
    | _ =>
      rw [errors_cons few, errors_cons many]
      simpa [errors] using ih

end Trace

namespace CommandLine

namespace Choices

def loud (c : Choices) : Choices := { c with verbose := true }

theorem choose_loud (c : Choices) (op : Operation) :
    c.loud.choose op = (c.choose op).map loud := by
  obtain ⟨operation, operands, session, verbose, extras⟩ := c
  cases operation with
  | none => rfl
  | some earlier => by_cases he : earlier = op <;> simp [choose, loud, he, Except.map]

theorem apply_loud (c : Choices) (s : Switch) : c.loud.apply s = (c.apply s).map loud := by
  cases s with
  | operation op => exact c.choose_loud op
  | _ => rfl

theorem applyAll_loud (c : Choices) (switches : List Switch) :
    c.loud.applyAll switches = (c.applyAll switches).map loud := by
  induction switches generalizing c with
  | nil => rfl
  | cons s switches ih =>
    rw [applyAll, applyAll, apply_loud]
    cases c.apply s with
    | error e => rfl
    | ok next => exact ih next

theorem resume_loud (c : Choices) (value : String) :
    c.loud.resume value = (c.resume value).map loud := by
  rw [resume, resume, choose_loud]
  cases c.choose .resume <;> rfl

/-- Logging has no part in how the words are read. -/
theorem run_loud (c : Choices) (tokens : List Token) :
    c.loud.run tokens = (c.run tokens).map loud := by
  fun_induction Choices.run c tokens with
  | case1 c => rfl
  | case2 c w rest ih => exact ih
  | case3 c w rest ih => exact ih
  | case4 c rest ih => exact ih
  | case5 c spelling value rest e he => simp only [run, resume_loud, he, Except.map]
  | case6 c spelling value rest next hn ih => simp only [run, resume_loud, hn, Except.map, ih]
  | case7 c spelling value rest e he => simp only [run, resume_loud, he, Except.map]
  | case8 c spelling value rest next hn ih => simp only [run, resume_loud, hn, Except.map, ih]
  | case9 c spelling rest hw => simp [run, Except.map]
  | case10 c switch spelling attached rest hv hw hr e he => simp [run, he, Except.map]
  | case11 c switch spelling attached rest hv hw hr switches hs e he =>
    simp [run, hs, applyAll_loud, he, Except.map]
  | case12 c switch spelling attached rest hv hw hr switches hs next hn ih =>
    simp [run, hs, applyAll_loud, hn, Except.map, ih]

end Choices

namespace Invocation

def loud (i : Invocation) : Invocation := { i with verbose := true }

theorem run_loud_errors (i : Invocation) (bus : Bus) :
    GainsRecords (i.run bus).errors (i.loud.run bus).errors :=
  Trace.errors_gain (fun r _ => decide_eq_true (Nat.zero_le r.level.rank)) _

end Invocation

theorem Choices.finish_loud (c : Choices) : c.loud.finish = c.finish.map Invocation.loud := by
  obtain ⟨operation, operands, session, verbose, extras⟩ := c
  cases operation with
  | none => rfl
  | some op => cases extras <;> rfl

theorem tokenize_verbose (words : List String) :
    tokenize ("-v" :: words) = (tokenize words).map (.option .verbose "-v" none :: ·) := by
  obtain ⟨hc, hne⟩ := @classify_plain "-v" .verbose (by decide)
  exact tokenize_of_classify hc hne words

theorem parse_verbose (words : List String) :
    parse ("-v" :: words) = (parse words).map Invocation.loud := by
  unfold parse
  rw [tokenize_verbose]
  cases tokenize words with
  | error e => rfl
  | ok tokens =>
    -- the option in front sets the flag from which the other words are read
    have hstart : Choices.run {} (.option .verbose "-v" none :: tokens) =
        Choices.run (Choices.loud {}) tokens := rfl
    simp only [Except.map, hstart, Choices.run_loud]
    cases Choices.run {} tokens with
    | error e => rfl
    | ok c => exact c.finish_loud

/-- Debug logging asked for in front of a command line changes nothing but the error output, to which it
can only add lines of log records. -/
theorem run_verbose (words : List String) (bus : Bus) :
    let silent := run words bus
    let loud := run ("-v" :: words) bus
    loud.exit = silent.exit ∧ loud.output = silent.output ∧ loud.events = silent.events ∧
      GainsRecords silent.errors loud.errors := by
  intro silent loud
  cases hp : parse words with
  | error stop =>
    have heq : loud = silent := by simp only [loud, silent, run, parse_verbose, hp, Except.map]
    rw [heq]
    exact ⟨rfl, rfl, rfl, .refl _⟩
  | ok i =>
    have hloud : loud = i.loud.run bus := run_of_invocation (by rw [parse_verbose, hp]; rfl) bus
    have hsilent : silent = i.run bus := run_of_invocation hp bus
    rw [hloud, hsilent]
    exact ⟨rfl, rfl, rfl, i.run_loud_errors bus⟩

end CommandLine

end MailboxControl
