import MailboxControl.Trace

/-! How actions compose. A bind whose first part succeeds goes on from the state that part left,
with its events in front; a bind whose first part fails ends there. -/

namespace MailboxControl

variable {σ α β : Type}

@[simp] theorem mapError_ok {ε ε' : Type} (f : ε → ε') (a : α) :
    (Except.ok a).mapError f = .ok a := rfl

@[simp] theorem mapError_error {ε ε' : Type} (f : ε → ε') (e : ε) :
    (Except.error e : Except ε α).mapError f = .error (f e) := rfl

/-- The outcome with more shown before it. -/
def Outcome.after (o : Outcome σ α) (t : Trace) : Outcome σ α := { o with trace := t ++ o.trace }

@[simp] theorem Outcome.after_result (o : Outcome σ α) (t : Trace) :
    (o.after t).result = o.result := rfl

@[simp] theorem Outcome.after_state (o : Outcome σ α) (t : Trace) :
    (o.after t).state = o.state := rfl

@[simp] theorem Outcome.after_trace (o : Outcome σ α) (t : Trace) :
    (o.after t).trace = t ++ o.trace := rfl

@[simp] theorem Outcome.after_mk (r : Except Failure α) (s : σ) (t u : Trace) :
    (Outcome.mk r s u).after t = ⟨r, s, t ++ u⟩ := rfl

@[simp] theorem Outcome.after_nil (o : Outcome σ α) : o.after [] = o := rfl

namespace Action

@[simp] theorem pure_apply (a : α) (s : σ) : (pure a : Action σ α) s = ⟨.ok a, s, []⟩ := rfl

@[simp] theorem lift_apply (r : Except Failure α) (s : σ) : lift r s = ⟨r, s, []⟩ := rfl

@[simp] theorem fail_apply (e : Failure) (s : σ) : (fail e : Action σ α) s = ⟨.error e, s, []⟩ :=
  rfl

@[simp] theorem emit_apply (e : Event) (s : σ) : emit e s = ⟨.ok (), s, [e]⟩ := rfl

@[simp] theorem log_apply (level : Level) (logger : Logger) (message : String) (s : σ) :
    log level logger message s = ⟨.ok (), s, [.logged ⟨level, logger, message⟩]⟩ := rfl

theorem bind_of_ok {x : Action σ α} {s s' : σ} {a : α} {t : Trace} (h : x s = ⟨.ok a, s', t⟩)
    (f : α → Action σ β) : (x >>= f) s = (f a s').after t := by
  show Action.bind x f s = _
  simp only [Action.bind, h]
  rfl

theorem bind_of_error {x : Action σ α} {s s' : σ} {e : Failure} {t : Trace}
    (h : x s = ⟨.error e, s', t⟩) (f : α → Action σ β) : (x >>= f) s = ⟨.error e, s', t⟩ := by
  show Action.bind x f s = _
  simp only [Action.bind, h]

@[simp] theorem lift_ok_bind (a : α) (f : α → Action σ β) (s : σ) :
    (lift (.ok a) >>= f) s = f a s := bind_of_ok (lift_apply _ s) f

@[simp] theorem lift_error_bind (e : Failure) (f : α → Action σ β) (s : σ) :
    (lift (.error e) >>= f) s = ⟨.error e, s, []⟩ := bind_of_error (lift_apply _ s) f

@[simp] theorem emit_bind (e : Event) (f : Unit → Action σ β) (s : σ) :
    (emit e >>= f) s = (f () s).after [e] := bind_of_ok (emit_apply e s) f

@[simp] theorem log_bind (level : Level) (logger : Logger) (message : String)
    (f : Unit → Action σ β) (s : σ) :
    (log level logger message >>= f) s = (f () s).after [.logged ⟨level, logger, message⟩] :=
  bind_of_ok (log_apply level logger message s) f

theorem bind_apply (x : Action σ α) (f : α → Action σ β) (s : σ) :
    (x >>= f) s =
      match (x s).result with
      | .ok a => (f a (x s).state).after (x s).trace
      | .error e => ⟨.error e, (x s).state, (x s).trace⟩ := by
  cases h : x s with
  | mk r s' t =>
    cases r with
    | ok a => exact bind_of_ok h f
    | error e => exact bind_of_error h f

theorem bind_pure_apply (x : Action σ α) (f : α → β) (s : σ) :
    (do let a ← x; pure (f a)) s = ⟨(x s).result.map f, (x s).state, (x s).trace⟩ := by
  rw [bind_apply]
  cases hr : (x s).result with
  | ok a => simp [Except.map]
  | error e => rfl

theorem map_apply (x : Action σ α) (f : α → β) (s : σ) :
    (f <$> x) s = ⟨(x s).result.map f, (x s).state, (x s).trace⟩ := bind_pure_apply x f s

theorem mapFailure_apply (x : Action σ α) (f : Failure → Failure) (s : σ) :
    x.mapFailure f s = ⟨(x s).result.mapError f, (x s).state, (x s).trace⟩ := by
  unfold mapFailure
  rcases x s with ⟨result, state, trace⟩
  cases result <;> rfl

theorem rescue_apply (x : Action σ α) (handler : Failure → Action σ α) (s : σ) :
    rescue x handler s =
      match (x s).result with
      | .ok a => ⟨.ok a, (x s).state, (x s).trace⟩
      | .error e => (handler e (x s).state).after (x s).trace := by
  unfold rescue
  rcases x s with ⟨result, state, trace⟩
  cases result <;> rfl

theorem followedBy_of_ok {x : Action σ α} {last : Action σ Unit} {s : σ}
    (h : (last (x s).state).result = .ok ()) :
    x.followedBy last s =
      ⟨(x s).result, (last (x s).state).state, (x s).trace ++ (last (x s).state).trace⟩ := by
  simp only [followedBy, h]

end Action

end MailboxControl
