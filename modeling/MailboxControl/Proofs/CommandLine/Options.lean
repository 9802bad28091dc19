import MailboxControl.Proofs.CommandLine.Events

/-! Command lines made of whole options, each spelled in full and resuming with a value that does not
look like an option. Such a command line is understood exactly if all its operations are one and the
same. It is then carried out with the last value given, and nothing else of its order counts. -/

namespace MailboxControl.CommandLine

/-- The options that take no value and go on to a command. -/
def plainOptions : List (String × Switch) :=
  [("--ping", .operation .ping), ("--status", .operation .status), ("--reset", .operation .reset),
    ("--point-to-flash", .operation .pointToFlash), ("--suspend", .operation .suspend),
    ("--flash-modified", .operation .flashModified), ("--flash_modified", .operation .flashModified),
    ("--session", .session), ("-v", .verbose), ("--verbose", .verbose)]

/-- An option as it is written: a word of its own, or resuming with its value, which may be joined to
it by an equals sign. -/
inductive Part where
  | plain (word : String) (switch : Switch) (known : (word, switch) ∈ plainOptions)
  | resume (joined : Bool) (value : String) (undashed : value.toList.head? ≠ some '-')

namespace Part

def words : Part → List String
  | plain word _ _ => [word]
  | resume false value _ => ["--resume", value]
  | resume true value _ => ["--resume=" ++ value]

def switch : Part → Switch
  | plain _ switch _ => switch
  | resume _ _ _ => .operation .resume

def operation? (p : Part) : Option Operation :=
  match p.switch with
  | .operation op => some op
  | _ => none

def value? : Part → Option String
  | plain _ _ _ => none
  | resume _ value _ => some value

def tokens : Part → List Token
  | plain word switch _ => [.option switch word none]
  | resume false value _ => [.option (.operation .resume) "--resume" none, .word value]
  | resume true value _ => [.option (.operation .resume) "--resume" (some value)]

end Part

theorem plainOptions_known : ∀ entry ∈ plainOptions,
    lookup? entry.1 = some entry.2 ∧ entry.1.toList.head? = some '-' ∧ entry.1 ≠ "--" := by
  decide

theorem classify_plain {word : String} {switch : Switch} (h : (word, switch) ∈ plainOptions) :
    classify word = .ok (.option switch word none) ∧ word ≠ "--" := by
  obtain ⟨hl, hd, hne⟩ := plainOptions_known _ h
  exact ⟨by simp [classify, hl, hd], hne⟩

theorem plainOptions_switch : ∀ entry ∈ plainOptions,
    entry.2 ≠ .help ∧ entry.2 ≠ .version ∧ entry.2 ≠ .operation .resume := by
  decide

theorem switch_of_known {word : String} {switch : Switch} (h : (word, switch) ∈ plainOptions) :
    switch = .session ∨ switch = .verbose ∨ ∃ op, op ≠ .resume ∧ switch = .operation op := by
  obtain ⟨hh, hv, hr⟩ := plainOptions_switch _ h
  cases switch with
  | help => exact absurd rfl hh
  | version => exact absurd rfl hv
  | session => exact Or.inl rfl
  | verbose => exact Or.inr (Or.inl rfl)
  | operation op => exact Or.inr (Or.inr ⟨op, fun he => hr (he ▸ rfl), rfl⟩)

theorem classify_undashed {value : String} (h : value.toList.head? ≠ some '-') :
    classify value = .ok (.word value) := by
  simp [classify, h]

theorem ne_separator {value : String} (h : value.toList.head? ≠ some '-') : value ≠ "--" := by
  rintro rfl
  exact h rfl

theorem equals_not_mem_spelling : ∀ entry ∈ spellings, '=' ∉ entry.1.toList := by
  decide

theorem lookup?_of_equals {word : String} (h : '=' ∈ word.toList) : lookup? word = none := by
  have hn : spellings.find? (·.1 == word) = none := by
    rw [List.find?_eq_none]
    intro entry he hw
    rw [beq_iff_eq] at hw
    exact equals_not_mem_spelling entry he (hw ▸ h)
  rw [lookup?, hn]
  rfl

theorem joined_toList (value : String) :
    ("--resume=" ++ value).toList = "--resume".toList ++ '=' :: value.toList := by
  rw [String.toList_append]
  rfl

theorem equals_mem_joined (value : String) : '=' ∈ ("--resume=" ++ value).toList := by
  simp

theorem joined_ne {word : String} (h : '=' ∉ word.toList) (value : String) :
    "--resume=" ++ value ≠ word := by
  rintro rfl
  exact h (equals_mem_joined value)

theorem splitEquals?_append {stem : List Char} (h : '=' ∉ stem) (value : List Char) :
    splitEquals? (stem ++ '=' :: value) = some (String.ofList stem, String.ofList value) := by
  have hs : ∀ c ∈ stem, (c != '=') = true := by
    intro c hc
    rw [bne_iff_ne]
    rintro rfl
    exact h hc
  simp [splitEquals?, List.takeWhile_append_of_pos hs, List.dropWhile_append_of_pos hs]

theorem classify_joined (value : String) :
    classify ("--resume=" ++ value) =
      .ok (.option (.operation .resume) "--resume" (some value)) := by
  have hk := lookup?_of_equals (equals_mem_joined value)
  have hd : "--resume=" ++ value ≠ "-" := joined_ne (by decide) value
  have hq : '=' ∉ "--resume".toList := by decide
  have hs := splitEquals?_append hq value.toList
  have hr : lookup? "--resume" = some (.operation .resume) := by rfl
  rw [classify, hk, if_neg (by simp), if_neg (by simpa using hd), joined_toList, hs]
  simp [hr]

theorem tokenize_of_classify {word : String} {token : Token} (hc : classify word = .ok token)
    (hne : word ≠ "--") (rest : List String) :
    tokenize (word :: rest) = (tokenize rest).map (token :: ·) := by
  simp [tokenize, hc, hne]

theorem Part.tokenize_words {p : Part} {rest : List String} {tokens : List Token}
    (h : tokenize rest = .ok tokens) : tokenize (p.words ++ rest) = .ok (p.tokens ++ tokens) := by
  cases p with
  | plain word switch known =>
    obtain ⟨hc, hne⟩ := classify_plain known
    rw [words, List.cons_append, tokenize_of_classify hc hne, List.nil_append, h]
    rfl
  | resume joined value undashed =>
    cases joined with
    | true =>
      rw [words, List.cons_append, tokenize_of_classify (classify_joined value)
        (joined_ne (by decide) value), List.nil_append, h]
      rfl
    | false =>
      have hr : classify "--resume" = .ok (.option (.operation .resume) "--resume" none) := by rfl
      rw [words, List.cons_append, tokenize_of_classify hr (by decide), List.cons_append,
        tokenize_of_classify (classify_undashed undashed) (ne_separator undashed),
        List.nil_append, h]
      rfl

theorem tokenize_flatMap (parts : List Part) :
    tokenize (parts.flatMap Part.words) = .ok (parts.flatMap Part.tokens) := by
  induction parts with
  | nil => rfl
  | cons p parts ih =>
    rw [List.flatMap_cons, List.flatMap_cons]
    exact Part.tokenize_words ih

/-- The operations asked for, in their order. -/
def asked (parts : List Part) : List Operation := parts.filterMap Part.operation?

def lastValue? (parts : List Part) : Option String := (parts.filterMap Part.value?).getLast?

namespace Part

/-- What an option adds to what has been asked for, or why it may not be added. -/
def act (c : Choices) : Part → Except Stop Choices
  | plain _ switch _ => c.apply switch
  | resume _ value _ => c.resume value

/-- What has been asked for after an option that may be added. -/
def note (c : Choices) (p : Part) : Choices where
  operation := p.operation?.or c.operation
  operands := (p.value?.map fun value => [value]).or c.operands
  session := c.session || p.switch = .session
  verbose := c.verbose || p.switch = .verbose
  extras := c.extras

theorem run_tokens (c : Choices) (p : Part) (rest : List Token) :
    c.run (p.tokens ++ rest) =
      match p.act c with
      | .error e => .error e
      | .ok c => c.run rest := by
  cases p with
  | plain word switch known =>
    have hr : switch ≠ .operation .resume := (plainOptions_switch _ known).2.2
    cases ha : c.apply switch <;>
      simp [tokens, act, Choices.run, unfold, Choices.applyAll, hr, ha]
  | resume joined value undashed =>
    cases joined <;> simp only [tokens, List.cons_append, List.nil_append, Choices.run] <;> rfl

/-- Adding the option does not ask for a second operation. -/
def Fits (c : Choices) (p : Part) : Prop :=
  ∀ op ∈ p.operation?, ∀ earlier ∈ c.operation, earlier = op

theorem choose_of_same {c : Choices} {op : Operation} (h : ∀ earlier ∈ c.operation, earlier = op) :
    c.choose op = .ok { c with operation := some op } := by
  obtain ⟨operation, operands, session, verbose, extras⟩ := c
  cases operation with
  | none => rfl
  | some earlier =>
    have he : earlier = op := h earlier rfl
    simp [Choices.choose, he]

theorem choose_of_other {c : Choices} {op earlier : Operation} (hc : c.operation = some earlier)
    (h : earlier ≠ op) :
    c.choose op = .error (.misuse (.conflict (.operation op) (.operation earlier))) := by
  simp [Choices.choose, hc, h]

theorem act_of_fits {c : Choices} {p : Part} (h : p.Fits c) : p.act c = .ok (p.note c) := by
  cases p with
  | plain word switch known =>
    rcases switch_of_known known with rfl | rfl | ⟨op, -, rfl⟩
    · simp [act, note, Choices.apply, operation?, switch, value?]
    · simp [act, note, Choices.apply, operation?, switch, value?]
    · have hs : ∀ earlier ∈ c.operation, earlier = op := h op rfl
      simp [act, note, Choices.apply, choose_of_same hs, operation?, switch, value?]
  | resume joined value undashed =>
    have hs : ∀ earlier ∈ c.operation, earlier = .resume := h .resume rfl
    have hv : [value].erase "--" = [value] := by simp [ne_separator undashed]
    simp [act, note, Choices.resume, choose_of_same hs, hv, operation?, switch, value?, Except.map]

theorem act_of_not_fits {c : Choices} {p : Part} (h : ¬ p.Fits c) :
    ∃ e, p.act c = .error (.misuse e) := by
  simp only [Fits, Classical.not_forall] at h
  obtain ⟨op, hp, earlier, hc, hne⟩ := h
  cases p with
  | plain word s known =>
    rcases switch_of_known known with rfl | rfl | ⟨own, -, rfl⟩
    · cases hp
    · cases hp
    · cases hp
      exact ⟨_, choose_of_other hc hne⟩
  | resume joined value undashed =>
    cases hp
    exact ⟨_, by rw [act, Choices.resume, choose_of_other hc hne]; rfl⟩

end Part

/-- Any two of the operations are the same. -/
def Uniform (ops : List Operation) : Prop := ∀ a ∈ ops, ∀ b ∈ ops, a = b

theorem uniform_cons (c : Choices) (p : Part) (parts : List Part) :
    Uniform (c.operation.toList ++ asked (p :: parts)) ↔
      p.Fits c ∧ Uniform ((p.note c).operation.toList ++ asked parts) := by
  cases hp : p.operation? with
  | none => simp [asked, Part.Fits, Part.note, hp]
  | some op =>
    cases hc : c.operation with
    | none => simp [asked, Part.Fits, Part.note, hp, hc]
    | some earlier =>
      by_cases h : earlier = op
      -- asking again for the same operation adds nothing to the set of operations
      · simp [asked, Part.Fits, Part.note, hp, hc, h, Uniform]
      · have hn : ¬ Uniform (earlier :: op :: asked parts) :=
          fun hu => h (hu _ (by simp) _ (by simp))
        simpa [asked, Part.Fits, hp, hc, h] using hn

/-- Options are added as long as they ask for one and the same operation. The induction carries what
has been asked for before them. -/
theorem run_flatMap (parts : List Part) (c : Choices) :
    (Uniform (c.operation.toList ++ asked parts) →
      c.run (parts.flatMap Part.tokens) = .ok (parts.foldl Part.note c)) ∧
    (¬ Uniform (c.operation.toList ++ asked parts) →
      ∃ e, c.run (parts.flatMap Part.tokens) = .error (.misuse e)) := by
  induction parts generalizing c with
  | nil =>
    refine ⟨fun _ => rfl, fun h => absurd ?_ h⟩
    cases hc : c.operation with
    | none => simp [Uniform, asked]
    | some op => simp [Uniform, asked]
  | cons p parts ih =>
    rw [uniform_cons, List.flatMap_cons, p.run_tokens]
    by_cases hf : p.Fits c
    · rw [Part.act_of_fits hf]
      simpa [hf] using ih (p.note c)
    · obtain ⟨e, he⟩ := Part.act_of_not_fits hf
      rw [he]
      exact ⟨fun h => absurd h.1 hf, fun _ => ⟨e, rfl⟩⟩

def forSession (parts : List Part) : Bool := parts.any (·.switch = .session)

theorem getLast?_filterMap_cons {α β : Type} (f : α → Option β) (a : α) (l : List α) :
    ((a :: l).filterMap f).getLast? = (l.filterMap f).getLast?.or (f a) := by
  rw [List.filterMap_cons]
  cases f a with
  | none => simp only [Option.or_none]
  | some b =>
    rw [List.getLast?_cons]
    cases (l.filterMap f).getLast? <;> rfl

theorem foldl_note_operation (parts : List Part) (c : Choices) :
    (parts.foldl Part.note c).operation = (asked parts).getLast?.or c.operation := by
  induction parts generalizing c with
  | nil => rfl
  | cons p parts ih =>
    rw [List.foldl_cons, ih, asked, asked, getLast?_filterMap_cons, Option.or_assoc]
    rfl

theorem foldl_note_operands (parts : List Part) (c : Choices) :
    (parts.foldl Part.note c).operands =
      ((lastValue? parts).map fun value => [value]).or c.operands := by
  induction parts generalizing c with
  | nil => rfl
  | cons p parts ih =>
    rw [List.foldl_cons, ih, lastValue?, lastValue?, getLast?_filterMap_cons, Option.map_or,
      Option.or_assoc]
    rfl

theorem foldl_note_session (parts : List Part) (c : Choices) :
    (parts.foldl Part.note c).session = (c.session || forSession parts) := by
  induction parts generalizing c with
  | nil => simp [forSession]
  | cons p parts ih =>
    rw [List.foldl_cons, ih]
    simp [forSession, Part.note, Bool.or_assoc]

theorem foldl_note_extras (parts : List Part) (c : Choices) :
    (parts.foldl Part.note c).extras = c.extras := by
  induction parts generalizing c with
  | nil => rfl
  | cons p parts ih => rw [List.foldl_cons, ih, Part.note]

/-- The options ask for this operation, any number of times, and for no other one. -/
def Selects (parts : List Part) (op : Operation) : Prop :=
  op ∈ asked parts ∧ ∀ other ∈ asked parts, other = op

variable {parts : List Part} {op : Operation}

theorem Selects.uniform (h : Selects parts op) : Uniform (asked parts) := fun a ha b hb =>
  (h.2 a ha).trans (h.2 b hb).symm

theorem Selects.getLast? (h : Selects parts op) : (asked parts).getLast? = some op := by
  cases hl : (asked parts).getLast? with
  | none =>
    rw [List.getLast?_eq_none_iff] at hl
    exact absurd h.1 (by simp [hl])
  | some last => rw [h.2 last (List.mem_of_getLast? hl)]

theorem selects_of_uniform (hu : Uniform (asked parts)) (hne : asked parts ≠ []) :
    ∃ op, Selects parts op := by
  obtain ⟨op, hop⟩ := List.exists_mem_of_ne_nil _ hne
  exact ⟨op, hop, fun other ho => hu other ho op hop⟩

def written (parts : List Part) : List String := parts.flatMap Part.words

theorem parse_of_run {c : Choices} (h : Choices.run {} (parts.flatMap Part.tokens) = .ok c) :
    parse (written parts) = c.finish := by
  simp only [parse, written, tokenize_flatMap, h]

theorem parse_of_run_error {stop : Stop}
    (h : Choices.run {} (parts.flatMap Part.tokens) = .error stop) :
    parse (written parts) = .error stop := by
  simp only [parse, written, tokenize_flatMap, h]

theorem parse_of_selects (h : Selects parts op) :
    ∃ i, parse (written parts) = .ok i ∧ i.operation = op ∧
      i.operands = (lastValue? parts).map (fun value => [value]) ∧ i.session = forSession parts := by
  rw [parse_of_run ((run_flatMap parts {}).1 h.uniform)]
  have hop := foldl_note_operation parts {}
  have hx := foldl_note_extras parts {}
  rw [h.getLast?] at hop
  simp only [Choices.finish, hop, hx]
  refine ⟨_, rfl, rfl, ?_, ?_⟩
  · simp [foldl_note_operands]
  · simp [foldl_note_session]

theorem parse_of_not_selects (h : ∀ op, ¬ Selects parts op) :
    ∃ e, parse (written parts) = .error (.misuse e) := by
  by_cases hu : Uniform (asked parts)
  · have hn : asked parts = [] := by
      apply Classical.byContradiction
      intro hne
      obtain ⟨op, hop⟩ := selects_of_uniform hu hne
      exact h op hop
    have hop := foldl_note_operation parts {}
    rw [hn] at hop
    rw [parse_of_run ((run_flatMap parts {}).1 hu)]
    simp only [Choices.finish, hop]
    exact ⟨_, rfl⟩
  · obtain ⟨e, he⟩ := (run_flatMap parts {}).2 hu
    exact ⟨e, parse_of_run_error he⟩

theorem Part.value?_eq_none_iff {p : Part} : p.value? = none ↔ p.operation? ≠ some .resume := by
  cases p with
  | plain word s known =>
    rcases switch_of_known known with rfl | rfl | ⟨own, hne, rfl⟩
    · simp [value?, operation?, switch]
    · simp [value?, operation?, switch]
    · simp [value?, operation?, switch, hne]
  | resume joined value undashed => simp [value?, operation?, switch]

theorem Selects.isSome_lastValue? (h : Selects parts op) :
    (lastValue? parts).isSome ↔ op = .resume := by
  have hv : lastValue? parts = none ↔ Operation.resume ∉ asked parts := by
    simp [lastValue?, asked, Part.value?_eq_none_iff]
  have hop : Operation.resume ∈ asked parts ↔ op = .resume :=
    ⟨fun hm => (h.2 _ hm).symm, fun he => he ▸ h.1⟩
  rw [← hop]
  cases hl : lastValue? parts with
  | none => simpa using hv.mp hl
  | some value => simpa [hl] using hv

/-- What a run shows, its error output aside. -/
def Transcript.quiet (t : Transcript) : Transcript := { t with errors := "" }

def Exit.ofResult : Except Failure Number → Exit
  | .ok n => .code n
  | .error e => .failed e

/-- One operation over a connection of its own, as a run shows it. -/
def shownCommand (bus : BusAddress) (op : Operation) (arg : Value) (state : Bus) : Transcript :=
  let outcome := Link.onBus (.daemonOn bus) (runCommand (.text op.keyword) arg) state
  { exit := .ofResult outcome.result
    output := outcome.trace.output
    events := outcome.trace.busEvents }

def busOf (parts : List Part) : BusAddress :=
  .text (if forSession parts then "SESSION" else "SYSTEM")

def argumentOf (parts : List Part) : Value :=
  match lastValue? parts with
  | some value => .text value
  | none => .null

theorem Invocation.run_quiet (i : Invocation) (bus : Bus) :
    (i.run bus).quiet = shownCommand i.endpoint.bus i.operation i.argument bus := by
  have he : i.endpoint = .daemonOn i.endpoint.bus := by
    unfold endpoint
    split <;> rfl
  rw [shownCommand, ← he, runCommand_keyword]
  simp only [run, Transcript.quiet]
  cases (Link.onBus i.endpoint (carryOut i.operation i.argument) bus).result <;> rfl

theorem run_of_selects (h : Selects parts op) (bus : Bus) :
    (run (written parts) bus).quiet = shownCommand (busOf parts) op (argumentOf parts) bus := by
  obtain ⟨i, hp, hop, hv, hs⟩ := parse_of_selects h
  have ha : i.argument = argumentOf parts := by
    rw [Invocation.argument, hv, argumentOf]
    cases lastValue? parts <;> rfl
  have hb : i.endpoint.bus = busOf parts := by
    rw [i.endpoint_bus, Invocation.busName, hs, busOf]
  rw [run_of_invocation hp, i.run_quiet, ha, hb, hop]

theorem run_of_not_selects (h : ∀ op, ¬ Selects parts op) (bus : Bus) :
    (run (written parts) bus).quiet = { exit := .stopped 2 } := by
  obtain ⟨e, he⟩ := parse_of_not_selects h
  simp only [run, he]
  rfl

section Reordered

variable {other : List Part} (h : parts.Perm other)
include h

theorem selects_perm : Selects parts op ↔ Selects other op := by
  have hm : ∀ o, o ∈ asked parts ↔ o ∈ asked other := fun o =>
    (h.filterMap Part.operation?).mem_iff
  simp only [Selects, hm]

theorem busOf_perm : busOf parts = busOf other := by
  have hs : forSession parts = forSession other := h.any_eq
  rw [busOf, hs, ← busOf]

theorem run_perm (hv : lastValue? parts = lastValue? other) (bus : Bus) :
    (run (written parts) bus).quiet = (run (written other) bus).quiet := by
  by_cases hs : ∃ op, Selects parts op
  · obtain ⟨op, hop⟩ := hs
    have ha : argumentOf parts = argumentOf other := by rw [argumentOf, hv, ← argumentOf]
    rw [run_of_selects hop, run_of_selects ((selects_perm h).mp hop), busOf_perm h, ha]
  · have hn : ∀ op, ¬ Selects parts op := fun op hop => hs ⟨op, hop⟩
    rw [run_of_not_selects hn, run_of_not_selects fun op hop => hn op ((selects_perm h).mpr hop)]

end Reordered

/-- A command line of whole options runs one operation if they select one and stops otherwise, and
their order counts only for which value is the last. -/
theorem run_written (parts : List Part) (bus : Bus) :
    ((∀ op, ¬ Selects parts op) → (run (written parts) bus).quiet = { exit := .stopped 2 }) ∧
    (∀ op, Selects parts op →
      (run (written parts) bus).quiet = shownCommand (busOf parts) op (argumentOf parts) bus ∧
      Operation.ofKeyword (.text op.keyword) = .ok op ∧
      ((lastValue? parts).isSome ↔ op = .resume)) ∧
    ∀ other, parts.Perm other → lastValue? parts = lastValue? other →
      (run (written parts) bus).quiet = (run (written other) bus).quiet := by
  refine ⟨fun h => run_of_not_selects h bus, fun op h => ⟨run_of_selects h bus, ?_, ?_⟩,
    fun other h hv => run_perm h hv bus⟩
  · cases op <;> rfl
  · exact h.isSome_lastValue?

end MailboxControl.CommandLine
