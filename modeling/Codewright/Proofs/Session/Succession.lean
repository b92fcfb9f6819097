import Codewright.Proofs.Session.Failure
import Codewright.Proofs.Session.Tokens

/-!
# The tokens of successive states

Each state of a session has a token of its own. A state that takes over brings one that has just
been made, and a state that stays gives up its token if that has been cancelled. What was cancelled
for one state can therefore not stop the next one.
-/

namespace Codewright.Session

open Service (Call JobStatus)
open Staging (StagedFile)
open Transcript
open Workspace (ArchiveFormat FileSystem Path)

variable {α β S σ : Type}

/-! ## Actions and tokens -/

/-- Wherever it begins, `a` makes and cancels tokens, and cancels none before it is made. `view`
shows the tokens. -/
def Evolving (view : S → Tokens) (a : ExceptT Error (StateM S) α) : Prop :=
  ∀ s, (view s).Evolved (view (exec a s).2)

namespace Evolving

variable {view : S → Tokens}

/-- What leaves the tokens alone. -/
theorem silent {a : ExceptT Error (StateM S) α} (h : ∀ s, view (exec a s).2 = view s) :
    Evolving view a := by
  intro s
  rw [h s]
  exact .refl _

theorem pure (x : α) : Evolving view (Pure.pure x : ExceptT Error (StateM S) α) :=
  silent fun _ => rfl

theorem throw (e : Error) : Evolving view (throw e : ExceptT Error (StateM S) α) :=
  silent fun _ => rfl

theorem bind {a : ExceptT Error (StateM S) α} {f : α → ExceptT Error (StateM S) β}
    (ha : Evolving view a) (hf : ∀ x, Evolving view (f x)) : Evolving view (a >>= f) := by
  intro s
  have hs := ha s
  rw [exec_bind]
  rcases h : exec a s with ⟨e | x, s₁⟩
  · rw [h] at hs
    exact hs
  · rw [h] at hs
    exact hs.trans (hf x s₁)

theorem bind_get {f : S → ExceptT Error (StateM S) α} (hf : ∀ s, Evolving view (f s)) :
    Evolving view (get >>= f) :=
  bind (silent fun _ => rfl) hf

end Evolving

/-- An action on the world whose tokens evolve. -/
abbrev Action.Evolving (a : Action σ α) : Prop :=
  Session.Evolving World.tokens a

variable {env : Environment σ}

namespace Action

theorem evolving_ofExcept (x : Except Error α) : (ofExcept x : Action σ α).Evolving :=
  .silent fun w => by rw [exec_ofExcept]

theorem evolving_emit (e : Chat.Event) : (emit e : Action σ Unit).Evolving :=
  .silent fun _ => rfl

theorem evolving_stage (files : List StagedFile) : (stage files : Action σ Unit).Evolving :=
  .silent fun _ => rfl

theorem evolving_freshId : (freshId env).Evolving :=
  .silent fun _ => rfl

theorem evolving_isCancelled (t : Token) : (isCancelled t : Action σ Bool).Evolving :=
  .silent fun _ => rfl

theorem evolving_childToken (t : Token) : (childToken t : Action σ Token).Evolving :=
  fun w => Tokens.evolved_child w.tokens t

theorem evolving_wait (ms : Nat) : (wait env ms).Evolving :=
  fun _ => Tokens.evolved_cancelAll _ _

theorem evolving_call (c : Call) (wrap : Service.Error → Error) : (call env c wrap).Evolving := by
  intro w
  rw [exec_call]
  exact Tokens.evolved_cancelAll _ _

end Action

theorem evolving_uploadWorkspace (c : Context) : (uploadWorkspace env c).Evolving := by
  refine .bind_get fun w => .bind (Action.evolving_ofExcept _) fun snapshot => ?_
  refine .bind (Action.evolving_call _ _) fun slot => ?_
  exact .bind (Action.evolving_call _ _) fun _ => .pure _

theorem evolving_collect (job : Job) : (Job.collect env job).Evolving := by
  refine .bind (Action.evolving_call _ _) fun result => ?_
  exact .bind (Action.evolving_stage _) fun _ => .pure _

theorem evolving_poll (pauseMs : Nat) (job : Job) (n : Nat) :
    (Job.poll env pauseMs job n).Evolving := by
  induction n with
  | zero =>
      refine .bind (Action.evolving_isCancelled _) fun cancelled => ?_
      cases cancelled with
      | true => exact .pure _
      | false => exact .throw _
  | succ n ih =>
      refine .bind (Action.evolving_isCancelled _) fun cancelled => ?_
      cases cancelled with
      | true => exact .pure _
      | false =>
          refine .bind (Action.evolving_call _ _) fun text => ?_
          cases JobStatus.ofText text with
          | inProgress | predictReady => exact .bind (Action.evolving_wait _) fun _ => ih
          | failed | predictFailed | debateFailed | unknown => exact .throw _
          | complete => exact .bind (evolving_collect job) fun _ => .pure _

theorem evolving_requestApproach (c : Context) (message : String) :
    (State.requestApproach env c message).Evolving := by
  refine .bind (Action.evolving_ofExcept _) fun uploadId => ?_
  exact .bind (Action.evolving_call _ _) fun _ => .pure _

theorem evolving_announceChanges (tabId uploadId : String) (changes : Changes) :
    (State.announceChanges tabId uploadId changes : Action σ Unit).Evolving :=
  .bind (Action.evolving_emit _) fun _ => Action.evolving_emit _

theorem evolving_runGeneration (s : State) (c : Context) (message : Option String) :
    (State.runGeneration env s c message).Evolving := by
  refine .bind (Action.evolving_ofExcept _) fun uploadId => ?_
  refine .bind (Action.evolving_call _ _) fun id => ?_
  refine .bind (Action.evolving_emit _) fun _ => ?_
  refine .bind (evolving_poll _ _ _) fun result => ?_
  cases result with
  | cancelled => exact .pure _
  | complete changes => exact .bind (evolving_announceChanges _ _ _) fun _ => .pure _

/-! ## States that take over -/

/-- A handler whose tokens evolve. -/
abbrev Handler.Evolving (a : Handler σ α) : Prop :=
  Session.Evolving (fun h : Acting σ => h.world.tokens) a

theorem Handler.evolving_act {a : Action σ α} (ha : a.Evolving) : (act a).Evolving :=
  fun h => ha h.world

theorem Handler.evolving_update (f : State → State) : (update f : Handler σ Unit).Evolving :=
  .silent fun _ => rfl

/-- Tokens evolve, and the token of a state that takes over is the last one that was made. -/
def HandsOver (a : Handler σ Outcome) : Prop :=
  ∀ h, ∃ ts, h.world.tokens.Evolved ts ∧
    ((∃ e, (exec a h).1 = .error e ∧ (exec a h).2.world.tokens = ts) ∨
      ∃ outcome, (exec a h).1 = .ok outcome ∧ outcome.next.token = ts.fresh.1 ∧
        (exec a h).2.world.tokens = ts.fresh.2)

namespace HandsOver

theorem throw (e : Error) : HandsOver (throw e : Handler σ Outcome) :=
  fun h => ⟨h.world.tokens, .refl _, .inl ⟨e, rfl, rfl⟩⟩

theorem bind {a : Handler σ α} {f : α → Handler σ Outcome} (ha : a.Evolving)
    (hf : ∀ x, HandsOver (f x)) : HandsOver (a >>= f) := by
  intro h
  have hs := ha h
  rw [exec_bind]
  rcases hx : exec a h with ⟨e | x, h₁⟩
  · rw [hx] at hs
    exact ⟨_, hs, .inl ⟨e, rfl, rfl⟩⟩
  · rw [hx] at hs
    obtain ⟨ts, hts, ho⟩ := hf x h₁
    exact ⟨ts, hs.trans hts, ho⟩

theorem bind_get {f : Acting σ → Handler σ Outcome} (hf : ∀ h, HandsOver (f h)) :
    HandsOver (get >>= f) :=
  bind (.silent fun _ => rfl) hf

theorem bind_newToken {next : Token → Outcome} (hn : ∀ t, (next t).next.token = t) :
    HandsOver (Handler.act Action.newToken >>= fun t => Pure.pure (next t) : Handler σ Outcome) :=
  fun h => ⟨h.world.tokens, .refl _, .inr ⟨_, rfl, hn _, rfl⟩⟩

theorem delegate {a : Handler σ Outcome} (ha : HandsOver a) (s : State) :
    HandsOver (Handler.delegate s a) :=
  fun h => ha { h with state := s }

end HandsOver

theorem handsOver_draft (c : Context) (iteration : UInt32) (message : Option String) :
    HandsOver (State.draft env c iteration message) := by
  refine .bind (Handler.evolving_act (Action.evolving_ofExcept _)) fun text => ?_
  refine .bind (Handler.evolving_act (evolving_requestApproach _ _)) fun approach => ?_
  refine .bind (Handler.evolving_update _) fun _ => .bind_get fun h => ?_
  refine .bind (Handler.evolving_act (Action.evolving_emit _)) fun _ => ?_
  exact .bind_newToken fun _ => rfl

theorem handsOver_generate (c : Context) (iteration : UInt32) (message : Option String)
    (keep : Changes → Stage) : HandsOver (State.generate env c iteration message keep) := by
  refine .bind_get fun h => ?_
  refine .bind (Handler.evolving_act (evolving_runGeneration _ _ _)) fun changes => ?_
  exact .bind (Handler.evolving_update _) fun _ => .bind_newToken fun _ => rfl

theorem handsOver_regenerate (c : Context) (iteration : UInt32) (message : Option String) :
    HandsOver (State.regenerate env c iteration message) :=
  .bind (Handler.evolving_act (Action.evolving_ofExcept _)) fun _ => handsOver_generate _ _ _ _

theorem handsOver_mock (c : Context) (uploadId : String) :
    HandsOver (State.mock c uploadId : Handler σ Outcome) := by
  refine .bind_get fun h => .bind_get fun h' => ?_
  cases mockFiles h'.world.files c.root with
  | error => exact .bind_newToken fun _ => rfl
  | ok found =>
      refine .bind (Handler.evolving_act (Action.evolving_stage _)) fun _ => ?_
      refine .bind (Handler.evolving_update _) fun _ => ?_
      refine .bind (Handler.evolving_act (evolving_announceChanges _ _ _)) fun _ => ?_
      exact .bind_newToken fun _ => rfl

theorem handsOver_begin (c : Context) (message : Option String) :
    HandsOver (State.begin env c message) := by
  refine .bind (Handler.evolving_act (Action.evolving_ofExcept _)) fun _ => ?_
  refine .bind (Handler.evolving_act (evolving_uploadWorkspace _)) fun uploadId => ?_
  refine .bind_get fun h => .bind (Handler.evolving_act (Action.evolving_childToken _)) fun _ => ?_
  exact .delegate (handsOver_draft _ _ _) _

theorem handsOver_divert (c : Context) : HandsOver (State.divert env c) := by
  refine .bind (Handler.evolving_act Action.evolving_freshId) fun uploadId => .bind_get fun h => ?_
  refine .bind (Handler.evolving_act (Action.evolving_childToken _)) fun _ => ?_
  exact .delegate (handsOver_mock _ _) _

theorem handsOver_rework (c : Context) (iteration : UInt32) (message : Option String) :
    HandsOver (State.rework env c iteration message) := by
  refine .bind (Handler.evolving_act (Action.evolving_ofExcept _)) fun _ => ?_
  refine .bind (Handler.evolving_act (evolving_uploadWorkspace _)) fun uploadId => ?_
  refine .bind_get fun h => .bind (Handler.evolving_act (Action.evolving_childToken _)) fun _ => ?_
  exact .delegate (handsOver_regenerate _ _ _) _

theorem handsOver_interact (env : Environment σ) (message : Option String) :
    HandsOver (State.interact env message) := by
  refine .bind_get fun h => ?_
  cases h.state.stage with
  | notStarted => exact .throw _
  | awaitingTask c => exact handsOver_begin c message
  | drafting c iteration => exact handsOver_draft c iteration message
  | revising c iteration =>
      cases hm : State.wantsMock message with
      | true => exact handsOver_divert c
      | false => exact handsOver_draft c iteration message
  | generating c iteration => exact handsOver_generate c iteration none _
  | mocking c uploadId => exact handsOver_mock c uploadId
  | reviewing c iteration => exact handsOver_rework c iteration message
  | regenerating c iteration => exact handsOver_regenerate c iteration message

namespace Transcript

variable {c : Context} {format : ArchiveFormat} {fs : FileSystem} {s s' : State}
  {iteration : UInt32}
  {message : Option String} {t : List LogEntry} {files : List StagedFile}

theorem Draft.token_eq {res : Except Error Outcome} (h : Draft s c iteration message t s' res) :
    s'.token = s.token := by
  cases h with
  | noMessage | failed | done => rfl

theorem Round.token_eq {keep : Changes → Stage} {res : Except Error Outcome}
    (h : Round s c iteration message keep t files s' res) : s'.token = s.token := by
  cases h with
  | failed | done => rfl

theorem Regeneration.token_eq {res : Except Error Outcome}
    (h : Regeneration s c iteration message t files s' res) : s'.token = s.token := by
  cases h with
  | noMessage => rfl
  | sent _ round => exact round.token_eq

theorem Mock.token_eq {uploadId : String} {outcome : Outcome}
    (h : Mock fs s c uploadId t files s' outcome) : s'.token = s.token := by
  cases h with
  | unreadable | shown => rfl

theorem Interaction.token_eq {res : Except Error Outcome}
    (h : Interaction format fs s message t files s' res) : s'.token = s.token := by
  match h with
  | .tooEarly _ | .noTask _ _ | .noUpload _ _ _ | .begun _ _ _ | .diverted _ _ _
  | .noFeedback _ _ | .noReupload _ _ _ | .reworked _ _ _ => rfl
  | .drafted _ draft | .revised _ _ draft => exact draft.token_eq
  | .generated _ round => exact round.token_eq
  | .mocked _ mock => exact mock.token_eq
  | .regenerated _ regeneration => exact regeneration.token_eq

end Transcript

/-! ## Sessions -/

/-- The session has a token of its own, and no token is cancelled before it is made. -/
structure Running.Steady (r : Running σ) : Prop where
  onlyMade : r.world.tokens.OnlyMade
  made : r.world.tokens.Made r.session.state.token

/-- From `r` to `r'` tokens have evolved, and the session has got one that was made meanwhile. -/
structure Renewed (r r' : Running σ) : Prop where
  evolved : r.world.tokens.Evolved r'.world.tokens
  made : r'.world.tokens.Made r'.session.state.token
  newer : r.world.tokens.next ≤ r'.session.state.token.id

/-- From `r` to `r'` tokens have evolved, and the session has the same one or a newer one. -/
inductive Onward (r r' : Running σ) : Prop where
  | same : r.world.tokens.Evolved r'.world.tokens →
      r'.session.state.token = r.session.state.token → Onward r r'
  | renewed : Renewed r r' → Onward r r'

variable {r r₁ r₂ : Running σ}

namespace Onward

theorem refl (r : Running σ) : Onward r r := .same (.refl _) rfl

theorem evolved (h : Onward r r₁) : r.world.tokens.Evolved r₁.world.tokens := by
  cases h with
  | same h => exact h
  | renewed h => exact h.evolved

theorem steady (h : Onward r r₁) (hr : r.Steady) : r₁.Steady := by
  refine ⟨h.evolved.onlyMade hr.onlyMade, ?_⟩
  cases h with
  | same h ht =>
      rw [ht]
      exact hr.made.grown h.toGrown
  | renewed h => exact h.made

theorem trans_renewed (h : Onward r r₁) (h' : Renewed r₁ r₂) : Renewed r r₂ :=
  ⟨h.evolved.trans h'.evolved, h'.made, Nat.le_trans h.evolved.next h'.newer⟩

end Onward

theorem Renewed.of_fresh {ts : Tokens} (h : r.world.tokens.Evolved ts)
    (ht : r₁.session.state.token = ts.fresh.1) (hts : r₁.world.tokens = ts.fresh.2) :
    Renewed r r₁ := by
  refine ⟨?_, ?_, ?_⟩
  · rw [hts]
    exact h.trans (Tokens.evolved_fresh ts)
  · rw [hts, ht]
    exact Tokens.made_fresh ts
  · rw [ht]
    exact h.next

theorem Renewed.trans_onward (h : Renewed r r₁) (h' : Onward r₁ r₂) : Renewed r r₂ := by
  cases h' with
  | same h' ht =>
      refine ⟨h.evolved.trans h', ?_, ?_⟩
      · rw [ht]
        exact h.made.grown h'.toGrown
      · rw [ht]
        exact h.newer
  | renewed h' => exact (Onward.renewed h).trans_renewed h'

theorem Onward.trans (h : Onward r r₁) (h' : Onward r₁ r₂) : Onward r r₂ := by
  cases h' with
  | same h' ht =>
      cases h with
      | same h ht₁ => exact .same (h.trans h') (ht.trans ht₁)
      | renewed h => exact .renewed (h.trans_onward (.same h' ht))
  | renewed h' => exact .renewed (h.trans_renewed h')

/-- A token that was made before the session got its present one has no part in it. -/
theorem Renewed.isCancelled_cancel (h : Renewed r r₁) {t : Token}
    (ht : t.id < r.world.tokens.next) :
    (r₁.world.tokens.cancel t).isCancelled r₁.session.state.token =
      r₁.world.tokens.isCancelled r₁.session.state.token :=
  Tokens.isCancelled_cancel_of_ne h.made.above (Nat.ne_of_lt (Nat.lt_of_lt_of_le ht h.newer))

/-- What becomes of the token of a state that handles a message, from `r` to `r'`. -/
inductive Relayed (r r' : Running σ) : Except Error α → Prop where
  | handedOver {a : α} : Renewed r r' →
      r'.world.tokens.isCancelled r.session.state.token = true →
      r'.world.tokens.isCancelled r'.session.state.token = false → Relayed r r' (.ok a)
  | kept {e : Error} : r.world.tokens.Evolved r'.world.tokens →
      r'.session.state.token = r.session.state.token →
      r'.world.tokens.isCancelled r.session.state.token = false → Relayed r r' (.error e)
  | replaced {e : Error} : Renewed r r' →
      r'.world.tokens.isCancelled r.session.state.token = true →
      r'.world.tokens.isCancelled r'.session.state.token = false → Relayed r r' (.error e)

theorem Relayed.map {res : Except Error α} (h : Relayed r r₁ res) (f : α → β) :
    Relayed r r₁ (res.map f) := by
  cases h with
  | handedOver h hold hnew => exact .handedOver h hold hnew
  | kept h ht hkept => exact .kept h ht hkept
  | replaced h hold hnew => exact .replaced h hold hnew

/-- Only the tokens count. -/
theorem Relayed.congr {q q₁ : Running σ} {res : Except Error α} (h : Relayed r r₁ res)
    (hq : q.world.tokens = r.world.tokens ∧ q.session.state.token = r.session.state.token)
    (hq₁ : q₁.world.tokens = r₁.world.tokens ∧ q₁.session.state.token = r₁.session.state.token) :
    Relayed q q₁ res := by
  obtain ⟨hw, ht⟩ := hq
  obtain ⟨hw₁, ht₁⟩ := hq₁
  have hrenewed : Renewed r r₁ → Renewed q q₁ := by
    rintro ⟨hevolved, hmade, hnewer⟩
    rw [← hw, ← hw₁] at hevolved
    rw [← hw₁, ← ht₁] at hmade
    rw [← hw, ← ht₁] at hnewer
    exact ⟨hevolved, hmade, hnewer⟩
  cases h with
  | handedOver h hold hnew =>
      rw [← hw₁] at hold hnew
      rw [← ht] at hold
      rw [← ht₁] at hnew
      exact .handedOver (hrenewed h) hold hnew
  | kept h hkept halive =>
      rw [← hw, ← hw₁] at h
      rw [← ht, ← ht₁] at hkept
      rw [← hw₁, ← ht] at halive
      exact .kept h hkept halive
  | replaced h hold hnew =>
      rw [← hw₁] at hold hnew
      rw [← ht] at hold
      rw [← ht₁] at hnew
      exact .replaced (hrenewed h) hold hnew

theorem Relayed.onward {res : Except Error α} (h : Relayed r r₁ res) : Onward r r₁ := by
  cases h with
  | handedOver h | replaced h => exact .renewed h
  | kept h ht => exact .same h ht

/-- Handling a message leaves a token that is not cancelled. -/
theorem Relayed.alive {res : Except Error α} (h : Relayed r r₁ res) :
    r₁.world.tokens.isCancelled r₁.session.state.token = false := by
  cases h with
  | handedOver _ _ h | replaced _ _ h => exact h
  | kept _ ht h =>
      rw [ht]
      exact h

theorem forward_relayed (env : Environment σ) (message : Option String) (hr : r.Steady) :
    Relayed r (exec (forward env message) r).2 (exec (forward env message) r).1 := by
  obtain ⟨x, w⟩ := r
  let w₁ : World σ := { w with log := .event (.progress x.tabId true none) :: w.log }
  obtain ⟨ts, hts, hover⟩ := handsOver_interact env message ⟨x.state, w₁⟩
  obtain ⟨t, files, s', res, w₂, hrun, interaction, -⟩ := interact_spec env message x.state w₁
  have h₁ : exec (Action.emit (.progress x.tabId true none)) w = (.ok ⟨⟩, w₁) := rfl
  have htoken := interaction.token_eq
  have hmade : ts.Made s'.token := by
    rw [htoken]
    exact hr.made.grown hts.toGrown
  have halive : ts.fresh.2.isCancelled ts.fresh.1 = false :=
    Tokens.isCancelled_fresh (hts.onlyMade hr.onlyMade)
  rw [hrun] at hover
  rcases hover with ⟨e, rfl, rfl⟩ | ⟨outcome, rfl, hnext, htokens⟩
  · cases hc : w₂.tokens.isCancelled s'.token with
    | false =>
        have h : exec (forward env message) ⟨x, w⟩ =
            (.error e, ⟨{ x with state := s' },
              { w₂ with log := .event (.progress x.tabId false none) :: w₂.log }⟩) := by
          simp [forward, h₁, hrun, renewToken, hc]
        rw [h]
        exact .kept hts htoken (htoken ▸ hc)
    | true =>
        have h : exec (forward env message) ⟨x, w⟩ =
            (.error e, ⟨{ x with state := { s' with token := w₂.tokens.fresh.1 } },
              { w₂ with
                tokens := w₂.tokens.fresh.2
                log := .event (.progress x.tabId false none) :: w₂.log }⟩) := by
          simp [forward, h₁, hrun, renewToken, hc]
          rfl
        rw [h]
        refine .replaced (.of_fresh hts rfl rfl) ?_ halive
        exact (Tokens.grown_fresh _).isCancelled (htoken ▸ hc)
  · have h : exec (forward env message) ⟨x, w⟩ =
        (.ok outcome.content, ⟨{ x with state := outcome.next },
          { w₂ with
            tokens := w₂.tokens.cancel s'.token
            log := .event (.progress x.tabId false none) :: w₂.log }⟩) := by
      simp [forward, h₁, hrun]
    have hnew : w₂.tokens.isCancelled outcome.next.token = false := by
      rw [hnext, htokens]
      exact halive
    rw [h]
    refine .handedOver ⟨?_, ?_, ?_⟩ ?_ ?_
    · exact (htokens ▸ hts.trans (Tokens.evolved_fresh ts)).trans (Tokens.evolved_cancel _ _)
    · rw [hnext]
      exact (htokens ▸ Tokens.made_fresh ts).grown (Tokens.grown_cancel _ _)
    · rw [hnext]
      exact hts.next
    · rw [← htoken]
      exact (htokens ▸ hmade.grown (Tokens.grown_fresh ts)).isCancelled_cancel
    · refine (Tokens.isCancelled_cancel_of_ne (by rw [hnext]; rfl) ?_).trans hnew
      rw [hnext]
      exact Nat.ne_of_lt hmade.lt

/-! ## Moves -/

theorem exec_newToken (w : World σ) :
    exec Action.newToken w = (.ok w.tokens.fresh.1, { w with tokens := w.tokens.fresh.2 }) := rfl

theorem preload_cases (env : Environment σ) (message : String) (r : Running σ) :
    Onward r (exec (preload env message) r).2 ∧
        (r.session.state.stage = .notStarted → (exec (preload env message) r).1 ≠ .ok ⟨⟩) ∨
      Renewed r (exec (preload env message) r).2 := by
  cases hs : r.session.state.stage with
  | notStarted =>
      have hts : r.world.tokens.Evolved
          (exec (Action.call env .createConversation (.serverSide .conversation)) r.world).2.tokens :=
        Action.evolving_call _ _ _
      rcases h₁ : exec (Action.call env .createConversation (.serverSide .conversation)) r.world
        with ⟨e | id, w₁⟩
      · rw [h₁] at hts
        have h : exec (preload env message) r = (.error e, ⟨r.session, w₁⟩) := by
          simp [preload, hs, h₁]
        rw [h]
        exact .inl ⟨.same hts rfl, fun _ he => by cases he⟩
      · rw [h₁] at hts
        refine .inr (.of_fresh hts ?_ ?_) <;> simp [preload, hs, h₁, exec_newToken]
  | _ =>
      have h : exec (preload env message) r = (.ok ⟨⟩, r) := by simp [preload, hs]
      rw [h]
      exact .inl ⟨.refl r, fun hst => by cases hst⟩

theorem onward_preload (env : Environment σ) (message : String) (r : Running σ) :
    Onward r (exec (preload env message) r).2 := by
  rcases preload_cases env message r with ⟨h, -⟩ | h
  · exact h
  · exact .renewed h

theorem acceptPlan_cases (r : Running σ) :
    (exec acceptPlan r).2 = r ∧
        (∀ c n, r.session.state.stage = .revising c n → (exec acceptPlan r).1 ≠ .ok ⟨⟩) ∨
      Renewed r (exec acceptPlan r).2 := by
  cases hs : r.session.state.stage with
  | revising c n =>
      cases hc : c.uploadId with
      | none => exact .inl (by simp [acceptPlan, hs, Context.requireUploadId, hc])
      | some uploadId =>
          refine .inr (.of_fresh (.refl _) ?_ ?_) <;>
            simp [acceptPlan, hs, Context.requireUploadId, hc, exec_newToken]
  | _ => exact .inl (by simp [acceptPlan, hs])

theorem onward_acceptPlan (r : Running σ) : Onward r (exec acceptPlan r).2 := by
  rcases acceptPlan_cases r with ⟨h, -⟩ | h
  · rw [h]
    exact .refl r
  · exact .renewed h

theorem generateCode_relayed (env : Environment σ) (hr : r₁.Steady)
    (h : exec acceptPlan r = (.ok ⟨⟩, r₁)) :
    Relayed r₁ (exec (generateCode env) r).2 (exec (generateCode env) r).1 := by
  obtain ⟨x, w⟩ := r₁
  let w₁ : World σ := { w with log := .event (.chatInputEnabled x.tabId false) :: w.log }
  let w₂ : World σ :=
    { w₁ with log := .event (.updatePlaceholder x.tabId writingPlaceholder) :: w₁.log }
  have h₁ : exec (Action.emit (.chatInputEnabled x.tabId false)) w = (.ok ⟨⟩, w₁) := rfl
  have h₂ : exec (Action.emit (.updatePlaceholder x.tabId writingPlaceholder)) w₁ = (.ok ⟨⟩, w₂) :=
    rfl
  have relayed := forward_relayed env none (r := ⟨x, w₂⟩) ⟨hr.onlyMade, hr.made⟩
  rcases h₃ : exec (forward env none) ⟨x, w₂⟩ with ⟨res, ⟨x', w₃⟩⟩
  rw [h₃] at relayed
  -- What follows tells the user something and leaves all tokens alone.
  have hrun : exec (generateCode env) r = (res, ⟨x', { w₃ with
      log := .event (.updatePlaceholder x.tabId feedbackPlaceholder) ::
        .event (.chatInputEnabled x.tabId true) :: w₃.log }⟩) := by
    cases res <;> simp [generateCode, h, h₁, h₂, h₃]
  rw [hrun]
  exact relayed.congr ⟨rfl, rfl⟩ ⟨rfl, rfl⟩

/-- A move, begun in `r`, has the state of `r₁` handle a message. -/
inductive Move.Reaches (r : Running σ) : Move → Running σ → Prop where
  | send {message : String} : Reaches r (.send message) r
  | retry : Reaches r .retry r
  | generateCode {r₁ : Running σ} : exec Session.acceptPlan r = (.ok ⟨⟩, r₁) →
      Reaches r .generateCode r₁

/-- A move, begun in `r`, puts another state in the place of the one that is there. -/
inductive Move.Replaces (env : Environment σ) (r : Running σ) : Move → Prop where
  | handled {m : Move} {r₁ : Running σ} {text : Option String} : Reaches r m r₁ →
      (exec (m.perform env) r).1 = .ok (.content text) → Replaces env r m
  | started {message : String} : r.session.state.stage = .notStarted →
      (exec (Session.preload env message) r).1 = .ok ⟨⟩ → Replaces env r (.preload message)
  | accepted {c : Context} {n : UInt32} : r.session.state.stage = .revising c n →
      (exec Session.acceptPlan r).1 = .ok ⟨⟩ → Replaces env r .acceptPlan
  | staged {c : Context} {n : UInt32} : r.session.state.stage = .revising c n →
      (exec Session.acceptPlan r).1 = .ok ⟨⟩ → Replaces env r .generateCode

variable {m : Move}

theorem Move.Reaches.onward (h : m.Reaches r r₁) : Onward r r₁ := by
  cases h with
  | send | retry => exact .refl r
  | generateCode h =>
      have honward := onward_acceptPlan r
      rw [h] at honward
      exact honward

theorem perform_relayed (env : Environment σ) (hr : r.Steady) (h : m.Reaches r r₁) :
    Relayed r₁ (exec (m.perform env) r).2 (exec (m.perform env) r).1 := by
  cases h with
  | @send message =>
      let x : Session := { r.session with lastMessage := some message }
      have relayed := forward_relayed env (some message) (r := ⟨x, r.world⟩) ⟨hr.onlyMade, hr.made⟩
      rw [Move.perform, exec_return, exec_send]
      exact (relayed.map Reply.content).congr ⟨rfl, rfl⟩ ⟨rfl, rfl⟩
  | retry =>
      have relayed := forward_relayed env r.session.lastMessage hr
      rw [Move.perform, exec_return, exec_retry]
      exact relayed.map Reply.content
  | generateCode h =>
      have hr₁ := (Move.Reaches.generateCode h).onward.steady hr
      rw [Move.perform, exec_return]
      exact (generateCode_relayed env hr₁ h).map Reply.content

theorem perform_onward (env : Environment σ) (hr : r.Steady) (m : Move) :
    Onward r (exec (m.perform env) r).2 := by
  cases m with
  | preload message =>
      rw [Move.perform, exec_return]
      exact onward_preload env message r
  | send message => exact (perform_relayed env hr .send).onward
  | retry => exact (perform_relayed env hr .retry).onward
  | acceptPlan =>
      rw [Move.perform, exec_return]
      exact onward_acceptPlan r
  | generateCode =>
      rcases h : exec Session.acceptPlan r with ⟨e | _, r₁⟩
      · have hrun : exec (Session.generateCode env) r = (.error e, r₁) := by
          simp [Session.generateCode, h]
        have honward := onward_acceptPlan r
        rw [h] at honward
        rw [Move.perform, exec_return, hrun]
        exact honward
      · have reaches : Move.generateCode.Reaches r r₁ := .generateCode h
        exact reaches.onward.trans (perform_relayed env hr reaches).onward
  | acceptChanges disk =>
      obtain ⟨t, res, fs, h, -⟩ := acceptChanges_spec env.format disk r.session r.world
      rw [Move.perform, exec_return, h]
      exact .same (.refl _) rfl
  | handleError | edit => exact .same (.refl _) rfl
  | cancel t => exact .same (Tokens.evolved_cancel _ _) rfl

theorem Move.Replaces.renewed {env : Environment σ} (h : m.Replaces env r) (hr : r.Steady) :
    Renewed r (exec (m.perform env) r).2 := by
  cases h with
  | handled h hres =>
      have relayed := perform_relayed env hr h
      rw [hres] at relayed
      cases relayed with
      | handedOver renewed => exact h.onward.trans_renewed renewed
  | started hs hres =>
      rcases preload_cases env _ r with ⟨-, h⟩ | h
      · exact absurd hres (h hs)
      · rw [Move.perform, exec_return]
        exact h
  | accepted hs hres =>
      rcases acceptPlan_cases r with ⟨-, h⟩ | h
      · exact absurd hres (h _ _ hs)
      · rw [Move.perform, exec_return]
        exact h
  | staged hs hres =>
      rcases acceptPlan_cases r with ⟨-, h⟩ | h
      · exact absurd hres (h _ _ hs)
      · have reaches : Move.generateCode.Reaches r (exec Session.acceptPlan r).2 :=
          .generateCode (Prod.ext hres rfl)
        exact h.trans_onward (perform_relayed env hr reaches).onward

/-! ## Runs -/

theorem Running.Steady.new (settings : Settings) (root : Path) (tabId : String) (outside : σ)
    (files : FileSystem) : (Session.new settings root tabId outside files).Steady :=
  ⟨nofun, rfl, Nat.zero_lt_one⟩

theorem run_onward (env : Environment σ) (hr : r.Steady) (moves : List Move) :
    Onward r (run env r moves) := by
  refine run_induction env (.refl r) ?_ moves
  intro r₁ m h
  exact h.trans (perform_onward env (h.steady hr) m)

/-- Whatever is cancelled, and whenever: once a message has been handled, the session has a token
that is not cancelled. The state that handled it has had its token cancelled if another one takes
over; if it stays, it keeps its token, unless that has been cancelled and is renewed. A token
obtained from a state can not be used to cancel anything once another state has taken over. -/
theorem cancellation_left_behind (env : Environment σ) (settings : Settings) (root : Path)
    (tabId : String) (outside : σ) (files : FileSystem) (moves : List Move) :
    let r := run env (Session.new settings root tabId outside files) moves
    (∀ m r₁ r' res, Move.Reaches r m r₁ → exec (m.perform env) r = (res, r') →
      r'.world.tokens.isCancelled r'.session.state.token = false ∧
      ((∃ reply, res = .ok reply) →
        r'.world.tokens.isCancelled r₁.session.state.token = true) ∧
      ((∃ e, res = .error e) →
        if r'.world.tokens.isCancelled r₁.session.state.token then
          r₁.world.tokens.next ≤ r'.session.state.token.id
        else r'.session.state.token = r₁.session.state.token)) ∧
    ∀ between m after, Move.Replaces env (run env r between) m →
      let r' := run env r (between ++ m :: after)
      (r'.world.tokens.cancel r.session.state.token).isCancelled r'.session.state.token =
        r'.world.tokens.isCancelled r'.session.state.token := by
  intro r
  have hr : r.Steady := (run_onward env (.new settings root tabId outside files) moves).steady
    (.new settings root tabId outside files)
  refine ⟨?_, ?_⟩
  · intro m r₁ r' res reaches h
    have relayed := perform_relayed env hr reaches
    rw [h] at relayed
    refine ⟨relayed.alive, ?_, ?_⟩
    · rintro ⟨reply, rfl⟩
      cases relayed with
      | handedOver _ hold => exact hold
    · rintro ⟨e, rfl⟩
      cases relayed with
      | kept _ ht hkept =>
          rw [if_neg (Bool.eq_false_iff.mp hkept)]
          exact ht
      | replaced h hold =>
          rw [if_pos hold]
          exact h.newer
  · intro between m after replaces r'
    have hbetween := run_onward env hr between
    have hr₁ := hbetween.steady hr
    have hm := replaces.renewed hr₁
    have hafter := run_onward env ((Onward.renewed hm).steady hr₁) after
    have hrun : r' = run env (exec (m.perform env) (run env r between)).2 after := by
      simp only [r', run, List.foldl_append, List.foldl_cons]
    rw [hrun]
    exact (hbetween.trans_renewed (hm.trans_onward hafter)).isCancelled_cancel hr.made.lt

/-- Of the sessions below, the second has its token cancelled before a message fails, and the third
goes on from the plan to code. -/
theorem cancellation_left_behind_planned :
    let env := obliging (.ok "job") ⟨[], []⟩
    let r := planned env
    let r₂ := run env (Session.new {} sampleRoot "tab" () sample) [.preload "task", .cancel ⟨1, []⟩]
    let sent := exec (Move.perform env (.send "more")) r
    let failed := exec (Move.perform env (.send "")) r₂
    let r₃ := run env r [.acceptPlan, .retry]
    ((∃ text, sent.1 = .ok (.content text)) ∧
      sent.2.world.tokens.isCancelled r.session.state.token = true) ∧
    (failed.1 = .error .userMessageNotFound ∧
      failed.2.world.tokens.isCancelled failed.2.session.state.token = false ∧
      r₂.world.tokens.next ≤ failed.2.session.state.token.id) ∧
    Move.Replaces env r .acceptPlan ∧
    (r₃.world.tokens.cancel r.session.state.token).isCancelled r₃.session.state.token = false := by
  intro env r r₂ sent failed r₃
  have hr : r = _ := planned_obliging
  obtain ⟨hmove, hrun⟩ := cancellation_left_behind env {} sampleRoot "tab" () sample
    [.preload "task", .send "message"]
  obtain ⟨hmove₂, -⟩ := cancellation_left_behind env {} sampleRoot "tab" () sample
    [.preload "task", .cancel ⟨1, []⟩]
  have hsent : ∃ text, sent.1 = .ok (.content text) := by
    simp only [sent, hr]
    exact ⟨_, rfl⟩
  have hfailed : failed.1 = .error .userMessageNotFound := by rfl
  have hcancelled : failed.2.world.tokens.isCancelled r₂.session.state.token = true := by rfl
  obtain ⟨halive, -, hrenewed⟩ := hmove₂ (.send "") _ failed.2 _ .send rfl
  have hreplaces : Move.Replaces env r .acceptPlan := by
    rw [hr]
    exact .accepted rfl rfl
  have hafter : r₃.world.tokens.isCancelled r₃.session.state.token = false := by
    simp only [r₃, hr]
    rfl
  refine ⟨⟨hsent, ?_⟩, ⟨hfailed, halive, ?_⟩, hreplaces, ?_⟩
  · obtain ⟨text, h⟩ := hsent
    exact (hmove (.send "more") _ sent.2 _ .send rfl).2.1 ⟨_, h⟩
  · have h := hrenewed ⟨_, hfailed⟩
    rwa [if_pos hcancelled] at h
  · exact (hrun [] .acceptPlan [.retry] hreplaces).trans hafter

/-- A plan that is accepted when code is wanted for it is replaced without being stopped. -/
theorem planned_not_stopped :
    let env := obliging (.ok "job") ⟨[], []⟩
    let r := planned env
    let coded := exec (Move.generateCode.perform env) r
    coded.1 = .ok (.content none) ∧
      coded.2.world.tokens.isCancelled r.session.state.token = false := by
  intro env r coded
  have hr : r = _ := planned_obliging
  simp only [coded, hr]
  exact ⟨rfl, rfl⟩

end Codewright.Session
