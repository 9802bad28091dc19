import MailboxControl.Proofs.Cause
import MailboxControl.Proofs.Reply

/-! What a call over an open connection comes back with. Its status is whatever the daemon gave, and
its bytes are those of an argument array. Where the second field is no such array, a whole number is
still turned into zeros and anything else ends the call in a fault that is not the client's own; every
other answer fails as a failure of the transport. -/

namespace MailboxControl

namespace Value

theorem toBytes_of_integer? {v : Value} {n : Int} (h : v.integer? = some n) :
    v.toBytes = (toCount n).map fun count => List.replicate count 0 := by
  cases v with
  | bool b => simp only [toBytes, h]
  | int m => simp only [toBytes, h]
  | code c => simp only [toBytes, h]
  | _ => cases h

/-- A value that is no array gives bytes only where it is a count of zeros. -/
theorem toBytes_of_not_isArrayOf {v : Value} (h : ∀ bs, ¬ v.IsArrayOf bs) :
    (∃ n count, v.integer? = some n ∧ toCount n = .ok count ∧
        v.toBytes = .ok (List.replicate count 0)) ∨
      ∃ f, v.toBytes = .error f := by
  cases hb : v.toBytes with
  | error f => exact Or.inr ⟨f, rfl⟩
  | ok bs =>
    cases hn : v.integer? with
    | none => exact absurd (isArrayOf_of_toBytes hb hn) (h bs)
    | some n =>
      have hz := toBytes_of_integer? hn
      rw [hb] at hz
      cases hcount : toCount n with
      | error f =>
        rw [hcount] at hz
        cases hz
      | ok count =>
        rw [hcount] at hz
        exact Or.inl ⟨n, count, rfl, hcount, hz⟩

end Value

namespace Link

variable {answer : Except Failure (List Value)} {status args : Value}

/-- The outcomes of an exchange with a bus that a call has to face: any body, an error reply, and any
failure of the system or about a value that is not the client's own. -/
def Faced : Except Failure (List Value) → Prop
  | .ok _ | .error (.busError _) => True
  | .error e => e.isClient = false ∧ (e.isSystem = true ∨ e.isValue = true)

/-- The second of the two fields is no argument array. -/
def Unarrayed (answer : Except Failure (List Value)) : Prop :=
  ∃ status args, answer = .ok [status, args] ∧ ∀ bs, ¬ args.IsArrayOf bs

/-- What is returned is the status and the bytes of the array, and any failure is one of the
transport. -/
structure Sound (answer : Except Failure (List Value)) (result : Except Failure (Value × Bytes)) :
    Prop where
  returned : ∀ status bs, result = .ok (status, bs) →
    ∃ args, answer = .ok [status, args] ∧ args.IsArrayOf bs
  failed : ∀ e, result = .error e → e.IsTransport

theorem wrapPost_of_faced {e : Failure} (h : Faced (.error e)) :
    wrapPost e = .wrapped .posting e := by
  unfold wrapPost
  split
  · rfl
  · next hne =>
    have hkind : e.isSystem = true ∨ e.isValue = true := by
      unfold Faced at h
      split at h
      · next he => cases he
      · next he => exact absurd (Except.error.inj he) (hne _)
      · next he => exact Except.error.inj he ▸ h.2
    have hor : (e.isSystem || e.isValue) = true := by simpa using hkind
    rw [if_pos hor]

theorem reading_of_error {e : Failure} (h : Faced (.error e)) :
    reading (.error e) = .error (.wrapped .posting e) := by
  simp only [reading, posted, wrapPost_of_faced h]

theorem reading_pair (status args : Value) :
    reading (.ok [status, args]) =
      match args.toBytes with
      | .ok bs => .ok (status, bs)
      | .error f => .error (.fault f) := rfl

theorem reading_of_isArrayOf {bs : Bytes} (h : args.IsArrayOf bs) :
    reading (.ok [status, args]) = .ok (status, bs) := by
  rw [reading_pair, Value.toBytes_of_isArrayOf h]

/-- A count of zeros is returned as bytes, and anything else that is no array ends in a fault. -/
theorem reading_of_not_isArrayOf (h : ∀ bs, ¬ args.IsArrayOf bs) (status : Value) :
    (∃ n count, args.integer? = some n ∧ Value.toCount n = .ok count ∧
        reading (.ok [status, args]) = .ok (status, List.replicate count 0)) ∨
      ∃ f, reading (.ok [status, args]) = .error (.fault f) := by
  rw [reading_pair]
  rcases Value.toBytes_of_not_isArrayOf h with ⟨n, count, hn, hcount, hb⟩ | ⟨f, hf⟩
  · exact Or.inl ⟨n, count, hn, hcount, by rw [hb]⟩
  · exact Or.inr ⟨f, by rw [hf]⟩

theorem not_sound_of_unarrayed (h : Unarrayed answer) : ¬ Sound answer (reading answer) := by
  obtain ⟨status, args, rfl, hargs⟩ := h
  intro hs
  rcases reading_of_not_isArrayOf hargs status with ⟨n, count, _, _, hr⟩ | ⟨f, hr⟩
  · obtain ⟨args', he, harray⟩ := hs.returned _ _ hr
    have hargs' : args = args' := by
      have hl := Except.ok.inj he
      exact (List.cons.inj (List.cons.inj hl).2).1
    exact hargs _ (hargs' ▸ harray)
  · have hclient : (Failure.fault f).isClient = true := (hs.failed _ hr).1
    cases hclient

theorem sound_of_transport {e : Failure} (he : e.IsTransport) : Sound answer (.error e) where
  returned status bs h := by cases h
  failed x h := Except.error.inj h ▸ he

theorem sound_of_not_unarrayed (ha : Faced answer) (h : ¬ Unarrayed answer) :
    Sound answer (reading answer) := by
  cases answer with
  | error e =>
    rw [reading_of_error ha]
    exact sound_of_transport ⟨rfl, rfl⟩
  | ok body =>
    cases hp : Value.pairOfItems body with
    | error f =>
      rw [reading_of_no_pair hp]
      exact sound_of_transport ⟨rfl, rfl⟩
    | ok pair =>
      obtain ⟨status, args⟩ := pair
      cases pairOfItems_eq_ok hp
      have harray : ∃ bs, args.IsArrayOf bs := by
        apply Classical.byContradiction
        intro hn
        exact h ⟨status, args, rfl, fun bs hbs => hn ⟨bs, hbs⟩⟩
      obtain ⟨bs, hbs⟩ := harray
      rw [reading_of_isArrayOf hbs]
      refine ⟨fun s given hr => ?_, fun x hx => (by cases hx)⟩
      cases hr
      exact ⟨args, rfl, hbs⟩

/-- A call returns the status and the bytes of the argument array of its reply or fails as the
transport does, exactly unless the reply has two fields of which the second is no argument array.
Then a count of zeros is returned as so many bytes, and anything else leaves the call as a fault. -/
theorem call_sound_iff {link : Link} (hc : link.connected = true) (hn : link.endpoint.busName ≠ none)
    (ha : Faced link.bus.nextReply.1) (command : Value) (sent : Bytes) :
    let answer := link.bus.nextReply.1
    let result := (call command (.bytes sent) link).result
    (Sound answer result ↔ ¬ Unarrayed answer) ∧
    (∀ status args bs, answer = .ok [status, args] → args.IsArrayOf bs → result = .ok (status, bs)) ∧
    (∀ e, answer = .error e → ∃ x, result = .error x ∧ x.Wraps e) ∧
    (∀ body, answer = .ok body → body.length ≠ 2 →
      ∃ x f, result = .error x ∧ x.Wraps (.fault f) ∧ f.family = .value) ∧
    ∀ status args, answer = .ok [status, args] → (∀ bs, ¬ args.IsArrayOf bs) →
      (∃ n count, args.integer? = some n ∧ Value.toCount n = .ok count ∧
        result = .ok (status, List.replicate count 0)) ∨
      ∃ f, result = .error (.fault f) := by
  intro answer result
  obtain ⟨name, hname⟩ := Endpoint.busName_ne_none_iff.mp hn
  have hresult : result = reading answer := congrArg Outcome.result (call_apply hc rfl hname command)
  have hwraps : ∀ cause, (Failure.wrapped .posting cause).Wraps cause :=
    Failure.wraps_wrapped (by simp)
  rw [hresult]
  refine ⟨⟨fun hs hu => not_sound_of_unarrayed hu hs, sound_of_not_unarrayed ha⟩,
    fun status args bs h hbs => ?_, fun e h => ?_, fun body h hlen => ?_, fun status args h hargs => ?_⟩
  · rw [h, reading_of_isArrayOf hbs]
  · have hfaced : Faced (.error e) := h ▸ ha
    exact ⟨_, by rw [h, reading_of_error hfaced], hwraps e⟩
  · obtain ⟨f, hp⟩ := pairOfItems_of_length_ne hlen
    exact ⟨_, f, by rw [h, reading_of_no_pair hp], hwraps _, pairOfItems_fault hp⟩
  · rw [h]
    exact reading_of_not_isArrayOf hargs status

/-- A list of the numbers of bytes is returned as these bytes, and the status as it came. -/
theorem call_sound_iff_listed :
    let answer : Except Failure (List Value) := .ok [.text "up", .list [.int 1, .bool true]]
    let bus : Bus := { replies := [.returned [.text "up", .list [.int 1, .bool true]]] }
    let link : Link := { endpoint := .system, connected := true, bus := bus }
    let result := (call (.int 1) (.bytes []) link).result
    Faced answer ∧ Sound answer result ∧ result = .ok (.text "up", [1, 1]) := by
  intro answer bus link result
  have hargs : (Value.list [.int 1, .bool true]).IsArrayOf [1, 1] := Or.inr ⟨_, rfl, rfl⟩
  have hn : link.endpoint.busName ≠ none := Option.some_ne_none Endpoint.daemonName
  have h := @call_sound_iff link rfl hn trivial (.int 1) []
  refine ⟨trivial, h.1.mpr ?_, h.2.1 _ _ _ rfl hargs⟩
  rintro ⟨status, args, hpair, hnone⟩
  cases hpair
  exact hnone _ hargs

/-- A reply without arguments where an array belongs leaves the call as a fault, and a bare number is
returned as so many zeros. -/
theorem not_sound_null :
    let answering : Value → Link := fun args =>
      { endpoint := .system, connected := true, bus := { replies := [.returned [.int 0, args]] } }
    (call (.int 1) (.bytes []) (answering .null)).result = .error (.fault (.notBytes "NoneType")) ∧
    ¬ Sound (.ok [.int 0, .null]) (call (.int 1) (.bytes []) (answering .null)).result ∧
    (call (.int 1) (.bytes []) (answering (.int 3))).result = .ok (.int 0, [0, 0, 0]) ∧
    ¬ Sound (.ok [.int 0, .int 3]) (call (.int 1) (.bytes []) (answering (.int 3))).result := by
  intro answering
  have hnull : ∀ bs, ¬ Value.null.IsArrayOf bs := by
    rintro bs (h | ⟨items, h, _⟩) <;> cases h
  have hthree : ∀ bs, ¬ (Value.int 3).IsArrayOf bs := by
    rintro bs (h | ⟨items, h, _⟩) <;> cases h
  exact ⟨rfl, not_sound_of_unarrayed ⟨_, _, rfl, hnull⟩, rfl,
    not_sound_of_unarrayed ⟨_, _, rfl, hthree⟩⟩

end Link

end MailboxControl
