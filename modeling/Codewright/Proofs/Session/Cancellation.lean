import Codewright.Proofs.Session.Conclusion
import Codewright.Proofs.Session.Reachable
import Codewright.Proofs.Session.Snapshot
import Codewright.Proofs.Session.Tokens

/-!
# Cancellation

A state that is cancelled asks for no further status, and comes to an end without an error of its
own: with the files of a job that is complete, or else with nothing. When it is cancelled is up to
the environment, which can do that during every call and every pause.
-/

namespace Codewright.Session

open Service (Call Export JobStatus)
open Staging (StagedFile)
open Transcript
open Workspace (FileSystem Snapshot)

variable {α β S σ : Type}

/-! ## Moments -/

/-- What an environment has come to: its state, and the tokens as it has left them. -/
structure Moment (σ : Type) where
  outside : σ
  tokens : Tokens

/-- The moment at which a world is. -/
def World.moment (w : World σ) : Moment σ :=
  ⟨w.outside, w.tokens⟩

/-- What the environment comes to when an entry is written. -/
def Environment.advance (env : Environment σ) (m : Moment σ) : LogEntry → Moment σ
  | .call c _ =>
    let served := env.serve m.outside c
    ⟨served.outside, served.cancelled.foldl Tokens.cancel m.tokens⟩
  | .waited ms =>
    let (cancelled, outside) := env.wait m.outside ms
    ⟨outside, cancelled.foldl Tokens.cancel m.tokens⟩
  | .event _ => m

/-- Whether a token has been cancelled when these entries have been written after `w`. -/
def Environment.cancelledBy (env : Environment σ) (token : Token) (w : World σ)
    (t : List LogEntry) : Bool :=
  (t.foldl env.advance w.moment).tokens.isCancelled token

/-- Whether an entry is a question for the status of a job. -/
def LogEntry.asksStatus : LogEntry → Bool
  | .call (.getCodeGeneration _ _) _ => true
  | _ => false

/-- The environment is in the same state, and tokens have been made and cancelled. -/
structure Moment.Grown (m m' : Moment σ) : Prop where
  outside : m.outside = m'.outside
  tokens : m.tokens.Grown m'.tokens

variable {env : Environment σ} {token : Token} {m m' : Moment σ} {t u : List LogEntry}

theorem Moment.Grown.advance (h : m.Grown m') (e : LogEntry) :
    (env.advance m e).Grown (env.advance m' e) := by
  obtain ⟨ho, ht⟩ := h
  cases e with
  | call c result =>
      simp only [Environment.advance, ho]
      exact ⟨rfl, ht.cancelAll _⟩
  | waited ms =>
      simp only [Environment.advance, ho]
      exact ⟨rfl, ht.cancelAll _⟩
  | event => exact ⟨ho, ht⟩

theorem Moment.Grown.foldl (env : Environment σ) (h : m.Grown m') (t : List LogEntry) :
    (t.foldl env.advance m).Grown (t.foldl env.advance m') := by
  induction t generalizing m m' with
  | nil => exact h
  | cons e t ih => exact ih (h.advance e)

theorem grown_advance (env : Environment σ) (m : Moment σ) (e : LogEntry) :
    m.tokens.Grown (env.advance m e).tokens := by
  cases e with
  | call | waited => exact Tokens.grown_cancelAll _ _
  | event => exact .refl _

theorem grown_foldl_advance (env : Environment σ) (t : List LogEntry) (m : Moment σ) :
    m.tokens.Grown (t.foldl env.advance m).tokens := by
  induction t generalizing m with
  | nil => exact .refl _
  | cons e t ih => exact (grown_advance env m e).trans (ih _)

/-- Each question among these entries is asked at a moment when the token is not cancelled. -/
def Environment.Heeded (env : Environment σ) (token : Token) : Moment σ → List LogEntry → Prop
  | _, [] => True
  | m, e :: t =>
    (e.asksStatus = true → m.tokens.isCancelled token = false) ∧
      Heeded env token (env.advance m e) t

namespace Environment.Heeded

theorem append (h : env.Heeded token m t) (h' : env.Heeded token (t.foldl env.advance m) u) :
    env.Heeded token m (t ++ u) := by
  induction t generalizing m with
  | nil => exact h'
  | cons e t ih => exact ⟨h.1, ih h.2 h'⟩

theorem of_append (h : env.Heeded token m (t ++ u)) :
    env.Heeded token (t.foldl env.advance m) u := by
  induction t generalizing m with
  | nil => exact h
  | cons e t ih => exact ih h.2

/-- What is not cancelled when tokens have been cancelled was not cancelled before. -/
theorem of_grown (h : env.Heeded token m' t) (hm : m.Grown m') : env.Heeded token m t := by
  induction t generalizing m m' with
  | nil => trivial
  | cons e t ih =>
      refine ⟨fun he => ?_, ih h.2 (hm.advance e)⟩
      cases hc : m.tokens.isCancelled token with
      | false => rfl
      | true => exact (hm.tokens.isCancelled hc).symm.trans (h.1 he)

/-- Once the token is cancelled no question is asked. -/
theorem quiet (h : env.Heeded token m t) (hm : m.tokens.isCancelled token = true) :
    ∀ e ∈ t, e.asksStatus = false := by
  induction t generalizing m with
  | nil => exact nofun
  | cons e t ih =>
      intro e' he'
      rcases List.mem_cons.mp he' with rfl | he'
      · cases hq : e'.asksStatus with
        | false => rfl
        | true => exact hm.symm.trans (h.1 hq)
      · exact ih h.2 ((grown_advance env m e).isCancelled hm) e' he'

end Environment.Heeded

/-! ## Actions that heed a token -/

/-- `w'` comes from `w` when these entries are written, and each question among them is asked while
the token is not cancelled. -/
structure World.Heeds (env : Environment σ) (token : Token) (w : World σ) (t : List LogEntry)
    (w' : World σ) : Prop where
  log : w'.log = t.reverse ++ w.log
  moment : (t.foldl env.advance w.moment).Grown w'.moment
  heeded : env.Heeded token w.moment t

namespace World.Heeds

variable {w w₁ w₂ : World σ}

theorem silent (hl : w₁.log = w.log) (ho : w₁.outside = w.outside)
    (ht : w.tokens.Grown w₁.tokens) : w.Heeds env token [] w₁ :=
  ⟨hl, ⟨ho.symm, ht⟩, trivial⟩

theorem trans (h : w.Heeds env token t w₁) (h₁ : w₁.Heeds env token u w₂) :
    w.Heeds env token (t ++ u) w₂ where
  log := by rw [h₁.log, h.log, List.reverse_append, List.append_assoc]
  moment := by
    have hg := h.moment.foldl env u
    rw [List.foldl_append]
    exact ⟨hg.outside.trans h₁.moment.outside, hg.tokens.trans h₁.moment.tokens⟩
  heeded := h.heeded.append (h₁.heeded.of_grown h.moment)

end World.Heeds

/-- From `s` on an action asks questions only while the token is not cancelled, and it is not
cancelled if the action gives up because of the limit. `view` shows the world. -/
def Heedful (view : S → World σ) (env : Environment σ) (token : Token)
    (a : ExceptT Error (StateM S) α) (s : S) : Prop :=
  ∃ t, (view s).Heeds env token t (view (exec a s).2) ∧
    ((exec a s).1 = .error .codeGenTimeout →
      (view (exec a s).2).tokens.isCancelled token = false)

namespace Heedful

variable {view : S → World σ} {s : S}

theorem bind {a : ExceptT Error (StateM S) α} {f : α → ExceptT Error (StateM S) β}
    (ha : Heedful view env token a s) (hf : ∀ x s', Heedful view env token (f x) s') :
    Heedful view env token (a >>= f) s := by
  obtain ⟨t, ht, hout⟩ := ha
  rw [Heedful, exec_bind]
  rcases h : exec a s with ⟨e | x, s'⟩
  · rw [h] at ht hout
    refine ⟨t, ht, fun he => hout ?_⟩
    cases he
    rfl
  · rw [h] at ht
    obtain ⟨u, hu, hout'⟩ := hf x s'
    exact ⟨t ++ u, ht.trans hu, hout'⟩

/-- An action that writes nothing, leaves the environment alone and cancels nothing. -/
theorem silent {a : ExceptT Error (StateM S) α} {res : Except Error α} {s' : S}
    (h : exec a s = (res, s')) (hres : res ≠ .error .codeGenTimeout)
    (hl : (view s').log = (view s).log) (ho : (view s').outside = (view s).outside)
    (ht : (view s).tokens.Grown (view s').tokens) : Heedful view env token a s := by
  rw [Heedful, h]
  exact ⟨[], .silent hl ho ht, fun he => absurd he hres⟩

theorem pure (x : α) : Heedful view env token (Pure.pure x : ExceptT Error (StateM S) α) s :=
  silent rfl nofun rfl rfl (.refl _)

theorem throw {e : Error} (he : e ≠ .codeGenTimeout) :
    Heedful view env token (throw e : ExceptT Error (StateM S) α) s :=
  silent (exec_throw e s) (fun h => he (Except.error.inj h)) rfl rfl (.refl _)

theorem bind_get {f : S → ExceptT Error (StateM S) α} (hf : Heedful view env token (f s) s) :
    Heedful view env token (get >>= f) s := by
  rw [Heedful, exec_bind, exec_get]
  exact hf

end Heedful

/-! ## Actions -/

/-- An action on the world that heeds a token. -/
abbrev Action.Heeds (env : Environment σ) (token : Token) (a : Action σ α) (w : World σ) : Prop :=
  Heedful id env token a w

namespace Action

variable {w : World σ}

theorem heeds_ofExcept {x : Except Error α} (hx : x ≠ .error .codeGenTimeout) :
    (ofExcept x).Heeds env token w :=
  .silent (exec_ofExcept x w) hx rfl rfl (.refl _)

theorem heeds_newToken : newToken.Heeds env token w :=
  .silent rfl nofun rfl rfl (Tokens.grown_fresh _)

theorem heeds_childToken (t : Token) : (childToken t).Heeds env token w :=
  .silent rfl nofun rfl rfl (Tokens.grown_child _ t)

theorem heeds_stage (files : List StagedFile) : (stage files).Heeds env token w :=
  .silent rfl nofun rfl rfl (.refl _)

theorem heeds_emit (e : Chat.Event) : (emit e).Heeds env token w :=
  ⟨[.event e], ⟨rfl, ⟨rfl, .refl _⟩, nofun, trivial⟩, nofun⟩

theorem heeds_wait (ms : Nat) : (wait env ms).Heeds env token w :=
  ⟨[.waited ms], ⟨rfl, ⟨rfl, .refl _⟩, nofun, trivial⟩, nofun⟩

/-- A call may be a question if the token is not cancelled. -/
theorem heeds_call (c : Call) {wrap : Service.Error → Error}
    (hwrap : ∀ e, wrap e ≠ .codeGenTimeout)
    (hc : ∀ result, (LogEntry.call c result).asksStatus = true →
      w.tokens.isCancelled token = false) :
    (call env c wrap).Heeds env token w := by
  rw [Heeds, Heedful, exec_call]
  refine ⟨[.call c (env.serve w.outside c).result], ⟨rfl, ⟨rfl, .refl _⟩, hc _, trivial⟩,
    fun h => ?_⟩
  cases hr : (env.serve w.outside c).result with
  | ok answer =>
      rw [hr] at h
      cases h
  | error e =>
      rw [hr] at h
      exact absurd (Except.error.inj h) (hwrap e)

theorem heeds_bind_isCancelled {t : Token} {f : Bool → Action σ α}
    (hf : (f (w.tokens.isCancelled t)).Heeds env token w) :
    (isCancelled t >>= f).Heeds env token w := by
  rw [Heeds, Heedful, exec_bind, exec_isCancelled]
  exact hf

end Action

theorem heeds_uploadWorkspace (c : Context) (w : World σ) :
    (uploadWorkspace env c).Heeds env token w := by
  unfold uploadWorkspace
  refine .bind_get (.bind (Action.heeds_ofExcept fun h => ?_) fun snapshot _ => ?_)
  · cases isUserFacing_take h
  · exact .bind (Action.heeds_call _ nofun nofun) fun slot _ =>
      .bind (Action.heeds_call _ nofun nofun) fun _ _ => .pure _

theorem heeds_collect (job : Job) (w : World σ) : (Job.collect env job).Heeds env token w := by
  unfold Job.collect
  exact .bind (Action.heeds_call _ nofun nofun) fun result _ =>
    .bind (Action.heeds_stage _) fun _ _ => .pure _

/-- Whatever cancels a token cancels another one too. -/
def Token.Rules (token t : Token) : Prop :=
  ∀ ts : Tokens, ts.isCancelled token = true → ts.isCancelled t = true

theorem Token.Rules.child {t : Token} (h : token.Rules t) (made : Tokens) :
    token.Rules (made.child t).1 :=
  fun ts hts => Tokens.isCancelled_child made (h ts hts)

theorem Token.Rules.eq_false {t : Token} (h : token.Rules t) {ts : Tokens}
    (ht : ts.isCancelled t = false) : ts.isCancelled token = false := by
  cases hc : ts.isCancelled token with
  | false => rfl
  | true => exact (h ts hc).symm.trans ht

/-- While a job is waited for, cancellation is noticed before each question and when the limit is
reached. -/
theorem heeds_poll (pauseMs : Nat) {job : Job} (hj : token.Rules job.token) (n : Nat)
    (w : World σ) : (Job.poll env pauseMs job n).Heeds env token w := by
  induction n generalizing w with
  | zero =>
      unfold Job.poll
      refine Action.heeds_bind_isCancelled ?_
      cases hc : w.tokens.isCancelled job.token with
      | true => exact .pure _
      | false => exact ⟨[], .silent rfl rfl (.refl _), fun _ => hj.eq_false hc⟩
  | succ n ih =>
      unfold Job.poll
      refine Action.heeds_bind_isCancelled ?_
      cases hc : w.tokens.isCancelled job.token with
      | true => exact .pure _
      | false =>
          refine .bind (Action.heeds_call _ (fun _ h => by cases h) fun _ _ => hj.eq_false hc)
            fun text _ => ?_
          cases JobStatus.ofText text with
          | inProgress | predictReady => exact .bind (Action.heeds_wait _) fun _ _ => ih _
          | failed | predictFailed | debateFailed | unknown => exact .throw fun h => by cases h
          | complete => exact .bind (heeds_collect job _) fun _ _ => .pure _

theorem heeds_announceChanges (tabId uploadId : String) (changes : Changes) (w : World σ) :
    (State.announceChanges tabId uploadId changes).Heeds env token w :=
  .bind (Action.heeds_emit _) fun _ _ => Action.heeds_emit _

theorem requireUploadId_ne_timeout (c : Context) : c.requireUploadId ≠ .error .codeGenTimeout := by
  unfold Context.requireUploadId
  split <;> nofun

theorem heeds_runGeneration {s : State} (hs : token.Rules s.token) (c : Context)
    (message : Option String) (w : World σ) :
    (State.runGeneration env s c message).Heeds env token w := by
  unfold State.runGeneration
  refine .bind (Action.heeds_ofExcept (requireUploadId_ne_timeout c)) fun uploadId _ => ?_
  refine .bind (Action.heeds_call _ nofun nofun) fun id _ => ?_
  refine .bind (Action.heeds_emit _) fun _ _ => ?_
  refine .bind (heeds_poll _ hs _ _) fun result _ => ?_
  cases result with
  | cancelled => exact .pure _
  | complete changes => exact .bind (heeds_announceChanges ..) fun _ _ => .pure _

/-! ## Handlers -/

/-- A handler that heeds a token. -/
abbrev Handler.Heeds (env : Environment σ) (token : Token) (a : Handler σ α) (h : Acting σ) :
    Prop :=
  Heedful Acting.world env token a h

namespace Handler

variable {h : Acting σ}

theorem heeds_act {a : Action σ α} (ha : a.Heeds env token h.world) :
    (act a).Heeds env token h :=
  ha

theorem heeds_update (f : State → State) : (update f).Heeds env token h :=
  .silent rfl nofun rfl rfl (.refl _)

theorem heeds_delegate {a : Handler σ α} {s : State}
    (ha : a.Heeds env token { h with state := s }) : (delegate s a).Heeds env token h :=
  ha

/-- An action leaves the state alone. -/
theorem heeds_bind_act {a : Action σ α} {f : α → Handler σ β} (ha : a.Heeds env token h.world)
    (hf : ∀ x w, (exec a h.world).1 = .ok x → (f x).Heeds env token ⟨h.state, w⟩) :
    (act a >>= f).Heeds env token h := by
  obtain ⟨t, ht, hout⟩ := ha
  rw [Heeds, Heedful, exec_bind, exec_act]
  rcases hx : exec a h.world with ⟨e | x, w⟩
  · rw [hx] at ht hout
    exact ⟨t, ht, fun he => hout (by cases he; rfl)⟩
  · rw [hx] at ht
    obtain ⟨u, hu, hout'⟩ := hf x w (by rw [hx])
    exact ⟨t ++ u, ht.trans hu, hout'⟩

end Handler

theorem heeds_generate (c : Context) (iteration : UInt32) (message : Option String)
    (keep : Changes → Stage) {h : Acting σ} (hs : token.Rules h.state.token) :
    (State.generate env c iteration message keep).Heeds env token h := by
  unfold State.generate
  refine .bind_get (.bind (Handler.heeds_act (heeds_runGeneration hs c message _)) fun _ _ => ?_)
  refine .bind (Handler.heeds_update _) fun _ _ => ?_
  exact .bind (Handler.heeds_act Action.heeds_newToken) fun _ _ => .pure _

theorem heeds_userMessage (message : Option String) (w : World σ) :
    (Action.ofExcept (userMessage message)).Heeds env token w :=
  Action.heeds_ofExcept fun h => by cases isUserFacing_userMessage h

theorem heeds_regenerate (c : Context) (iteration : UInt32) (message : Option String) {h : Acting σ}
    (hs : token.Rules h.state.token) :
    (State.regenerate env c iteration message).Heeds env token h := by
  unfold State.regenerate
  exact Handler.heeds_bind_act (heeds_userMessage message _) fun _ _ _ =>
    heeds_generate c iteration _ _ hs

theorem heeds_rework (c : Context) (iteration : UInt32) (message : Option String) {h : Acting σ}
    (hs : token.Rules h.state.token) :
    (State.rework env c iteration message).Heeds env token h := by
  unfold State.rework
  refine Handler.heeds_bind_act (heeds_userMessage message _) fun _ w₁ _ => ?_
  refine Handler.heeds_bind_act (heeds_uploadWorkspace c _) fun uploadId w₂ _ => .bind_get ?_
  refine Handler.heeds_bind_act (Action.heeds_childToken _) fun child w₃ hchild => ?_
  obtain rfl : (w₂.tokens.child h.state.token).1 = child := Except.ok.inj hchild
  exact Handler.heeds_delegate (heeds_regenerate _ iteration message (hs.child _))

theorem heeds_interact (env : Environment σ) {s : State} {message : Option String}
    (hs : s.stage.Generates message) (w : World σ) :
    (State.interact env message).Heeds env s.token ⟨s, w⟩ := by
  unfold State.interact
  refine .bind_get ?_
  obtain ⟨stage, approach, tabId, token⟩ := s
  cases stage with
  | notStarted | awaitingTask | drafting | revising | mocking => exact hs.elim
  | generating c iteration => exact heeds_generate c iteration none _ fun _ h => h
  | reviewing c iteration => exact heeds_rework c iteration message fun _ h => h
  | regenerating c iteration => exact heeds_regenerate c iteration message fun _ h => h

/-! ## Interactions -/

/-- From the moment on when its token is cancelled, a state that has code generated asks for no
status. If nothing fails it hands over: the files of the archive, staged and announced, if the last
status is that the job is complete, and else nothing. -/
theorem cancellation_heeded (env : Environment σ) (message : Option String) (s : State)
    (w : World σ) (hs : s.stage.Generates message) :
    let r := exec (State.interact env message) ⟨s, w⟩
    ∃ t : List LogEntry, r.2.world.log = t.reverse ++ w.log ∧
      ∀ u v, t = u ++ v → env.cancelledBy s.token w u = true →
        (∀ e ∈ v, e.asksStatus = false) ∧
          (s.stage.CanUpload env.format w.files → (∀ e ∈ t, e.isSmooth = true) →
            ∃ outcome c n changes uploadId, r.1 = .ok outcome ∧
              outcome.next.stage = .reviewing c n changes ∧ c.uploadId = some uploadId ∧
              (lastStatus? t = some .complete ∧ (∃ archive : Export,
                  t.filterMap LogEntry.archive? = [archive] ∧
                  t.filterMap LogEntry.codeResult? =
                    [⟨archive.files.map (·.path), archive.deleted, uploadId⟩] ∧
                  r.2.world.staged.read =
                    Staging.overlay uploadId archive.files w.staged.read ∧
                  changes =
                    ⟨archive.files.map (StagedFile.ofGenerated uploadId), archive.deleted⟩) ∨
                lastStatus? t ≠ some .complete ∧ t.filterMap LogEntry.codeResult? = [] ∧
                  r.2.world.staged = w.staged ∧ changes = {})) := by
  obtain ⟨t, heeds, htimeout⟩ := heeds_interact env hs w
  obtain ⟨t', files, s', res, w', hrun, interaction, follows⟩ := interact_spec env message s w
  rw [hrun] at heeds htimeout ⊢
  obtain rfl : t' = t := by
    have h := follows.log.symm.trans heeds.log
    exact List.reverse_inj.mp (List.append_cancel_right h)
  refine ⟨t', follows.log, fun u v ht hc => ⟨?_, fun hfs hsmooth => ?_⟩⟩
  · subst ht
    exact heeds.heeded.of_append.quiet hc
  · have hend : w'.tokens.isCancelled s.token = true := by
      have hmoment := heeds.moment
      rw [ht, List.foldl_append] at hmoment
      exact hmoment.tokens.isCancelled ((grown_foldl_advance env v _).isCancelled hc)
    have hres : res ≠ .error .codeGenTimeout := fun h => by
      cases hend.symm.trans (htimeout h)
    obtain ⟨outcome, c, n, changes, uploadId, hok, hnext, hupload, rfl, concluded⟩ :=
      interaction.concluded hs hfs hsmooth hres
    refine ⟨outcome, c, n, changes, uploadId, hok, hnext, hupload, ?_⟩
    cases concluded with
    | @complete archive hl ha hcode =>
        refine .inl ⟨hl, archive, ha, hcode, ?_, rfl⟩
        rw [follows.staged, Staging.Store.read_registerAll_ofGenerated]
    | stopped hl hcode => exact .inr ⟨hl, hcode, follows.staged, rfl⟩

/-- A state that is to generate code, with the first token. -/
def readyToGenerate (uploadId : Option String) : State :=
  { stage := .generating ⟨"conversation", uploadId, sampleRoot, {}, 1⟩ 0 {}
    tabId := "tab"
    token := ⟨0, []⟩ }

/-- A world in which the first token has been made. -/
def quietWorld : World Unit :=
  { outside := (), files := sample, tokens := { next := 1 } }

/-- A service whose job is complete when it is first asked for, by which time the user has cancelled
the first token. -/
def overtaken : Environment Unit where
  serve outside c :=
    { (obliging (.ok "job") ⟨[⟨"a.txt", "text"⟩], ["b.txt"]⟩).serve outside c with
      cancelled :=
        match c with
        | .getCodeGeneration _ _ => [⟨0, []⟩]
        | _ => [] }
  wait _ _ := ([], ())
  freshId _ := ("fresh", ())
  format := Workspace.Zip.format

/-- What comes too late to stop a job that is complete keeps nothing back. -/
theorem cancellation_heeded_overtaken :
    let r := exec (State.interact overtaken none) ⟨readyToGenerate (some "place"), quietWorld⟩
    r.2.world.tokens.isCancelled ⟨0, []⟩ = true ∧
      ∃ outcome c n changes, r.1 = .ok outcome ∧
        outcome.next.stage = .reviewing c n changes ∧
        changes = ⟨[StagedFile.ofGenerated "place" ⟨"a.txt", "text"⟩], ["b.txt"]⟩ := by
  obtain ⟨t, hlog, h⟩ := cancellation_heeded overtaken none (readyToGenerate (some "place"))
    quietWorld rfl
  have ht : t = (exec (State.interact overtaken none)
      ⟨readyToGenerate (some "place"), quietWorld⟩).2.world.log.reverse := by
    rw [hlog]
    simp [quietWorld]
  subst ht
  obtain ⟨-, h⟩ := h _ [] (List.append_nil _).symm rfl
  obtain ⟨outcome, c, n, changes, uploadId, hok, hnext, hupload, h⟩ := h trivial (by decide)
  refine ⟨rfl, outcome, c, n, changes, hok, hnext, ?_⟩
  rcases h with ⟨-, archive, ha, hcode, -, rfl⟩ | ⟨hl, -⟩
  · have harchive : [archive] = [⟨[⟨"a.txt", "text"⟩], ["b.txt"]⟩] := ha.symm.trans rfl
    have hresult : [_] = [(⟨["a.txt"], ["b.txt"], "place"⟩ : CodeResult)] := hcode.symm.trans rfl
    obtain rfl := (List.cons.inj harchive).1
    obtain rfl := (CodeResult.mk.inj (List.cons.inj hresult).1).2.2
    rfl
  · exact absurd rfl hl

/-- Without an upload the state fails although nothing else does. -/
theorem cancelled_without_upload :
    let w : World Unit := { quietWorld with tokens := quietWorld.tokens.cancel ⟨0, []⟩ }
    let r := exec (State.interact overtaken none) ⟨readyToGenerate none, w⟩
    w.tokens.isCancelled (readyToGenerate none).token = true ∧ r.2.world.log = [] ∧
      r.1 = .error .uploadIdNotFound :=
  ⟨rfl, rfl, rfl⟩

end Codewright.Session
