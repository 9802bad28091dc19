import MailboxControl.Trace

/-! Traces in which at most one bus is held. An opening is allowed while none is held, a call and a
closing while one is. The number of buses held is then read off the openings and the closings. -/

namespace MailboxControl

/-- Whether a bus is held after an event that is allowed. -/
def Event.follow? (held : Bool) : Event → Option Bool
  | .opened _ up => if held then none else some up
  | .closed => if held then some false else none
  | .sent _ => if held then some true else none
  | _ => some held

def Event.isUp : Event → Bool
  | .opened _ up => up
  | _ => false

def Event.isClosed : Event → Bool
  | .closed => true
  | _ => false

theorem Event.follow?_balance {held held' : Bool} {e : Event} (h : e.follow? held = some held') :
    (held'.toNat : Int) = held.toNat + e.isUp.toNat - e.isClosed.toNat := by
  cases e <;> cases held <;> simp [Event.follow?] at h <;> subst h <;>
    simp [Event.isUp, Event.isClosed]

namespace Trace

/-- Whether a bus is held after a trace, each of whose events is allowed where it stands. -/
def follow? (held : Bool) (t : Trace) : Option Bool := t.foldlM Event.follow? held

/-- The buses opened with success less the buses closed. -/
def balance (t : Trace) : Int := (t.countP Event.isUp : Int) - t.countP Event.isClosed

theorem follow?_nil (held : Bool) : follow? held [] = some held := rfl

theorem follow?_cons (held : Bool) (e : Event) (t : Trace) :
    follow? held (e :: t) = (e.follow? held).bind (follow? · t) := rfl

theorem follow?_append (held : Bool) (t u : Trace) :
    follow? held (t ++ u) = (follow? held t).bind (follow? · u) := List.foldlM_append

theorem follow?_append_of {held middle last : Bool} {t u : Trace}
    (ht : follow? held t = some middle) (hu : follow? middle u = some last) :
    follow? held (t ++ u) = some last := by
  rw [follow?_append, ht]
  exact hu

theorem balance_append (t u : Trace) : balance (t ++ u) = balance t + balance u := by
  simp only [balance, List.countP_append]
  omega

theorem balance_of_follow? {held last : Bool} {t : Trace} (h : follow? held t = some last) :
    (last.toNat : Int) = held.toNat + balance t := by
  induction t generalizing held with
  | nil => cases h; simp [balance]
  | cons e t ih =>
    rw [follow?_cons] at h
    obtain ⟨middle, he, ht⟩ := Option.bind_eq_some_iff.mp h
    have hb := Event.follow?_balance he
    have hi := ih ht
    have hc : balance (e :: t) = e.isUp.toNat - e.isClosed.toNat + balance t := by
      cases hu : e.isUp <;> cases hc : e.isClosed <;> simp [balance, hu, hc] <;> omega
    omega

/-- A trace that starts with no bus held and may be followed to its end. -/
def Orderly (t : Trace) : Prop := ∃ last, follow? false t = some last

theorem Orderly.split {t u : Trace} (h : Orderly (t ++ u)) :
    ∃ held, follow? false t = some held ∧ (follow? held u).isSome := by
  obtain ⟨last, h⟩ := h
  rw [follow?_append] at h
  obtain ⟨held, ht, hu⟩ := Option.bind_eq_some_iff.mp h
  exact ⟨held, ht, Option.isSome_of_eq_some hu⟩

theorem Orderly.balance_eq {t u : Trace} (h : Orderly (t ++ u)) :
    balance t = 0 ∨ balance t = 1 := by
  obtain ⟨held, ht, _⟩ := h.split
  have hb := balance_of_follow? ht
  cases held <;> simp at hb <;> omega

theorem Orderly.balance_before {t u : Trace} {e : Event} (h : Orderly (t ++ e :: u)) :
    ∃ held : Bool, balance t = held.toNat ∧ (e.follow? held).isSome := by
  obtain ⟨held, ht, he⟩ := h.split
  have hb := balance_of_follow? ht
  refine ⟨held, by simpa using hb.symm, ?_⟩
  rw [follow?_cons] at he
  cases hf : e.follow? held with
  | none => simp [hf] at he
  | some _ => rfl

theorem Orderly.opened {t u : Trace} {bus : BusAddress} {up : Bool}
    (h : Orderly (t ++ .opened bus up :: u)) : balance t = 0 := by
  obtain ⟨held, hb, he⟩ := h.balance_before
  cases held <;> simp [Event.follow?] at he
  simpa using hb

theorem Orderly.sent {t u : Trace} {call : BusCall} (h : Orderly (t ++ .sent call :: u)) :
    balance t = 1 := by
  obtain ⟨held, hb, he⟩ := h.balance_before
  cases held <;> simp [Event.follow?] at he
  simpa using hb

theorem Orderly.closed {t u : Trace} (h : Orderly (t ++ .closed :: u)) : balance t = 1 := by
  obtain ⟨held, hb, he⟩ := h.balance_before
  cases held <;> simp [Event.follow?] at he
  simpa using hb

theorem exists_opened_of_balance_pos {t : Trace} (h : 0 < balance t) :
    ∃ bus, Event.opened bus true ∈ t := by
  have hp : 0 < t.countP Event.isUp := by
    unfold balance at h
    omega
  obtain ⟨e, he, hu⟩ := List.countP_pos_iff.mp hp
  cases e with
  | opened bus up => exact ⟨bus, by simpa [Event.isUp] using hu ▸ he⟩
  | _ => simp [Event.isUp] at hu

theorem Orderly.opened_before_closed {t middle u : Trace} (ht : balance t = 0)
    (h : Orderly (t ++ (middle ++ .closed :: u))) : ∃ bus, Event.opened bus true ∈ middle := by
  rw [← List.append_assoc] at h
  have hb := h.closed
  rw [balance_append] at hb
  exact exists_opened_of_balance_pos (by omega)

/-- One bus at most is held, it is used while it is held, and it is closed once. -/
structure HoldsOneBus (t : Trace) : Prop where
  balance_eq : ∀ before after, t = before ++ after → balance before = 0 ∨ balance before = 1
  opened : ∀ before bus up after, t = before ++ .opened bus up :: after → balance before = 0
  sent : ∀ before call after, t = before ++ .sent call :: after → balance before = 1
  closed : ∀ before after, t = before ++ .closed :: after → balance before = 1
  refused_not_closed : ∀ before bus middle after,
    t = before ++ .opened bus false :: (middle ++ .closed :: after) →
      ∃ bus', Event.opened bus' true ∈ middle
  closed_once : ∀ before middle after, t = before ++ .closed :: (middle ++ .closed :: after) →
    ∃ bus, Event.opened bus true ∈ middle

theorem Orderly.holdsOneBus {t : Trace} (h : Orderly t) : HoldsOneBus t where
  balance_eq before after he := (he ▸ h).balance_eq
  opened before bus up after he := (he ▸ h).opened
  sent before call after he := (he ▸ h).sent
  closed before after he := (he ▸ h).closed
  refused_not_closed before bus middle after he := by
    have ho : Orderly (before ++ .opened bus false :: (middle ++ .closed :: after)) := he ▸ h
    have hb : balance (before ++ [.opened bus false]) = 0 := by
      rw [balance_append, ho.opened]
      rfl
    exact opened_before_closed hb (by simpa using ho)
  closed_once before middle after he := by
    have ho : Orderly (before ++ .closed :: (middle ++ .closed :: after)) := he ▸ h
    have hb : balance (before ++ [.closed]) = 0 := by
      rw [balance_append, ho.closed]
      rfl
    exact opened_before_closed hb (by simpa using ho)

end Trace

end MailboxControl
