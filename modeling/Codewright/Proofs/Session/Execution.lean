import Codewright.Session.Transcript

/-!
# Executing actions

What the building blocks of actions, handlers and operations result in. With these equations `simp`
carries out whatever is put together from them.
-/

namespace Codewright.Session

variable {S α β σ : Type}

@[simp] theorem exec_pure (x : α) (s : S) :
    exec (pure x : ExceptT Error (StateM S) α) s = (.ok x, s) := rfl

@[simp] theorem exec_throw (e : Error) (s : S) :
    exec (throw e : ExceptT Error (StateM S) α) s = (.error e, s) := rfl

@[simp] theorem exec_get (s : S) : exec (get : ExceptT Error (StateM S) S) s = (.ok s, s) := rfl

@[simp] theorem exec_modifyGet (f : S → α × S) (s : S) :
    exec (modifyGet f : ExceptT Error (StateM S) α) s = (.ok (f s).1, (f s).2) := rfl

@[simp] theorem exec_bind (a : ExceptT Error (StateM S) α) (f : α → ExceptT Error (StateM S) β)
    (s : S) :
    exec (a >>= f) s =
      match exec a s with
      | (.ok x, s₁) => exec (f x) s₁
      | (.error e, s₁) => (.error e, s₁) := by
  have h : exec (a >>= f) s = ExceptT.bindCont f (exec a s).1 (exec a s).2 := rfl
  rw [h]
  rcases exec a s with ⟨e | x, s₁⟩ <;> rfl

theorem exec_bind_ok {a : ExceptT Error (StateM S) α} {f : α → ExceptT Error (StateM S) β}
    {s s' : S} {y : β} (h : exec (a >>= f) s = (.ok y, s')) :
    ∃ x s₁, exec a s = (.ok x, s₁) ∧ exec (f x) s₁ = (.ok y, s') := by
  rw [exec_bind] at h
  rcases hx : exec a s with ⟨e | x, s₁⟩
  · rw [hx] at h
    cases h
  · rw [hx] at h
    exact ⟨x, s₁, rfl, h⟩

theorem exec_bind_error {a : ExceptT Error (StateM S) α}
    {f : α → ExceptT Error (StateM S) β} {s s' : S} (h : exec (a >>= f) s = (.error e, s')) :
    exec a s = (.error e, s') ∨ ∃ x s₁, exec a s = (.ok x, s₁) ∧ exec (f x) s₁ = (.error e, s') := by
  rw [exec_bind] at h
  rcases hx : exec a s with ⟨e | x, s₁⟩
  · rw [hx] at h
    cases h
    exact .inl rfl
  · rw [hx] at h
    exact .inr ⟨x, s₁, rfl, h⟩

@[simp] theorem exec_map (f : α → β) (a : ExceptT Error (StateM S) α) (s : S) :
    exec (f <$> a) s =
      match exec a s with
      | (.ok x, s₁) => (.ok (f x), s₁)
      | (.error e, s₁) => (.error e, s₁) := by
  rw [map_eq_pure_bind, exec_bind]
  rfl

@[simp] theorem exec_ofExcept (x : Except Error α) (w : World σ) :
    exec (Action.ofExcept x) w = (x, w) := by
  cases x <;> rfl

@[simp] theorem exec_isCancelled (t : Token) (w : World σ) :
    exec (Action.isCancelled t) w = (.ok (w.tokens.isCancelled t), w) := rfl

@[simp] theorem exec_cancel (t : Token) (w : World σ) :
    exec (Action.cancel t) w = (.ok ⟨⟩, { w with tokens := w.tokens.cancel t }) := rfl

@[simp] theorem exec_emit (e : Chat.Event) (w : World σ) :
    exec (Action.emit e) w = (.ok ⟨⟩, { w with log := .event e :: w.log }) := rfl

theorem exec_return (a : ExceptT Error (StateM S) α) (f : α → β) (s : S) :
    exec (do return f (← a)) s = ((exec a s).1.map f, (exec a s).2) := by
  rw [exec_bind]
  rcases exec a s with ⟨e | x, s₁⟩ <;> rfl

/-- A call changes the world in the same way whether it succeeds or fails. -/
theorem exec_call (env : Environment σ) (c : Service.Call) (wrap : Service.Error → Error)
    (w : World σ) :
    exec (Action.call env c wrap) w =
      ((env.serve w.outside c).result.mapError wrap,
        { w with
          outside := (env.serve w.outside c).outside
          tokens := (env.serve w.outside c).cancelled.foldl Tokens.cancel w.tokens
          log := .call c (env.serve w.outside c).result :: w.log }) := by
  unfold Action.call
  rw [exec_bind, exec_get]
  dsimp only
  cases (env.serve w.outside c).result <;> rfl

/-! ## Handlers and operations -/

@[simp] theorem Handler.exec_act (a : Action σ α) (h : Acting σ) :
    exec (Handler.act a) h =
      ((exec a h.world).1, { h with world := (exec a h.world).2 }) := rfl

@[simp] theorem Handler.exec_update (f : State → State) (h : Acting σ) :
    exec (Handler.update f) h = (.ok ⟨⟩, { h with state := f h.state }) := rfl

@[simp] theorem Handler.exec_delegate (s : State) (a : Handler σ α) (h : Acting σ) :
    exec (Handler.delegate s a) h =
      ((exec a { h with state := s }).1,
        { h with world := (exec a { h with state := s }).2.world }) := rfl

namespace Operation

@[simp] theorem exec_act (a : Action σ α) (r : Running σ) :
    exec (act a) r = ((exec a r.world).1, { r with world := (exec a r.world).2 }) := rfl

@[simp] theorem exec_update (f : Session → Session) (r : Running σ) :
    exec (update f) r = (.ok ⟨⟩, { r with session := f r.session }) := rfl

@[simp] theorem exec_attempt (o : Operation σ α) (r : Running σ) :
    exec (attempt o) r = (.ok (exec o r).1, (exec o r).2) := rfl

@[simp] theorem exec_handle (a : Handler σ α) (r : Running σ) :
    exec (handle a) r =
      ((exec a ⟨r.session.state, r.world⟩).1,
        { session := { r.session with state := (exec a ⟨r.session.state, r.world⟩).2.state }
          world := (exec a ⟨r.session.state, r.world⟩).2.world }) := rfl

end Operation

theorem exec_send (env : Environment σ) (message : String) (r : Running σ) :
    exec (send env message) r =
      exec (forward env (some message))
        { r with session := { r.session with lastMessage := some message } } := by
  simp [send]

theorem exec_retry (env : Environment σ) (r : Running σ) :
    exec (retry env) r = exec (forward env r.session.lastMessage) r := by
  simp [retry]

end Codewright.Session
