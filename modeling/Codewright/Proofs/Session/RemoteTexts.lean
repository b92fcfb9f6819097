import Mathlib.Data.List.Forall2
import Codewright.Proofs.Session.Entries
import Codewright.Proofs.Session.Reachable
import Codewright.Proofs.Session.Snapshot

/-!
# Texts of the service

The service sends texts along with its errors, and a status may be one that nobody knows. Such texts
stay in the errors of a session: two services that differ in them only are asked the same, and the
user is told the same.
-/

namespace Codewright

/-- Errors of the service that differ in their texts only. -/
def Service.Error.Alike (e₁ e₂ : Service.Error) : Prop :=
  e₁.kind = e₂.kind

open Service (Call JobStatus)

/-- Results of a call that are the same but for the texts of errors and of unknown statuses. -/
inductive Service.Call.Alike :
    (c : Call) → Except Service.Error c.Answer → Except Service.Error c.Answer → Prop where
  | refl {c : Call} {result : Except Service.Error c.Answer} : Alike c result result
  | failed {c : Call} {e₁ e₂ : Service.Error} : e₁.Alike e₂ → Alike c (.error e₁) (.error e₂)
  | unknown {conversationId id text₁ text₂ raw₁ raw₂ : String} :
      JobStatus.ofText text₁ = .unknown raw₁ → JobStatus.ofText text₂ = .unknown raw₂ →
      Alike (.getCodeGeneration conversationId id) (.ok text₁) (.ok text₂)

namespace Session

open Staging (StagedFile)
open Workspace (FileSystem Path Snapshot)

/-- Errors that differ in texts of the service only. -/
inductive Error.Alike : Error → Error → Prop where
  | refl (e : Error) : Alike e e
  | uploadCode {c₁ c₂ : Service.Error} : c₁.Alike c₂ → Alike (.uploadCode c₁) (.uploadCode c₂)
  | serverSide {operation : ServerOperation} {c₁ c₂ : Service.Error} : c₁.Alike c₂ →
      Alike (.serverSide operation c₁) (.serverSide operation c₂)
  | unknownCodeGenStatus (status₁ status₂ : String) :
      Alike (.unknownCodeGenStatus status₁) (.unknownCodeGenStatus status₂)

namespace Error.Alike

variable {e₁ e₂ : Error}

theorem isUserFacing (h : e₁.Alike e₂) : e₁.isUserFacing = e₂.isUserFacing := by
  cases h with
  | refl | uploadCode | serverSide | unknownCodeGenStatus => rfl

theorem canRetry (h : e₁.Alike e₂) : e₁.canRetry = e₂.canRetry := by
  cases h with
  | refl | uploadCode | unknownCodeGenStatus => rfl
  | serverSide h => exact congrArg Service.ErrorKind.isRetryable h

theorem userCopy (h : e₁.Alike e₂) (phase : Phase) (retriesLeft : Nat) :
    e₁.userCopy phase retriesLeft = e₂.userCopy phase retriesLeft := by
  cases h with
  | refl | uploadCode | serverSide | unknownCodeGenStatus => rfl

theorem retriesAfter (h : e₁.Alike e₂) (retries : Nat) :
    Session.retriesAfter retries e₁ = Session.retriesAfter retries e₂ := by
  rw [Session.retriesAfter, Session.retriesAfter, h.isUserFacing, h.canRetry]

end Error.Alike

/-- Log entries that differ in texts of the service only. -/
inductive LogEntry.Alike : LogEntry → LogEntry → Prop where
  | call {c : Call} {result₁ result₂ : Except Service.Error c.Answer} : c.Alike result₁ result₂ →
      Alike (.call c result₁) (.call c result₂)
  | event (e : Chat.Event) : Alike (.event e) (.event e)
  | waited (ms : Nat) : Alike (.waited ms) (.waited ms)

/-- Two environments that answer alike, whatever they are asked, and cancel the same, as long as
their states are related. -/
structure Environment.Alike {σ₁ σ₂ : Type} (R : σ₁ → σ₂ → Prop) (env₁ : Environment σ₁)
    (env₂ : Environment σ₂) : Prop where
  result {s₁ : σ₁} {s₂ : σ₂} : R s₁ s₂ → ∀ c : Call,
    c.Alike (env₁.serve s₁ c).result (env₂.serve s₂ c).result
  cancelled {s₁ : σ₁} {s₂ : σ₂} : R s₁ s₂ → ∀ c : Call,
    (env₁.serve s₁ c).cancelled = (env₂.serve s₂ c).cancelled
  outside {s₁ : σ₁} {s₂ : σ₂} : R s₁ s₂ → ∀ c : Call,
    R (env₁.serve s₁ c).outside (env₂.serve s₂ c).outside
  wait {s₁ : σ₁} {s₂ : σ₂} : R s₁ s₂ → ∀ ms,
    (env₁.wait s₁ ms).1 = (env₂.wait s₂ ms).1 ∧ R (env₁.wait s₁ ms).2 (env₂.wait s₂ ms).2
  freshId {s₁ : σ₁} {s₂ : σ₂} : R s₁ s₂ →
    (env₁.freshId s₁).1 = (env₂.freshId s₂).1 ∧ R (env₁.freshId s₁).2 (env₂.freshId s₂).2
  format : env₁.format = env₂.format

variable {S₁ S₂ σ₁ σ₂ α β α₁ α₂ β₁ β₂ : Type}

/-! ## Pairs of computations -/

/-- Results with related values, or errors that differ in texts of the service only. -/
inductive Matched (V : α₁ → α₂ → Prop) : Except Error α₁ → Except Error α₂ → Prop where
  | ok {x₁ : α₁} {x₂ : α₂} : V x₁ x₂ → Matched V (.ok x₁) (.ok x₂)
  | error {e₁ e₂ : Error} : e₁.Alike e₂ → Matched V (.error e₁) (.error e₂)

theorem Matched.refl (res : Except Error α) : Matched Eq res res := by
  cases res with
  | ok x => exact .ok rfl
  | error e => exact .error (.refl e)

theorem Matched.mono {V W : α₁ → α₂ → Prop} {res₁ : Except Error α₁} {res₂ : Except Error α₂}
    (h : Matched V res₁ res₂) (hV : ∀ x₁ x₂, V x₁ x₂ → W x₁ x₂) : Matched W res₁ res₂ := by
  cases h with
  | ok h => exact .ok (hV _ _ h)
  | error h => exact .error h

/-- From related states on, two computations come to matching results and to related states. -/
def Coupled (Q : S₁ → S₂ → Prop) (V : α₁ → α₂ → Prop) (a₁ : ExceptT Error (StateM S₁) α₁)
    (a₂ : ExceptT Error (StateM S₂) α₂) : Prop :=
  ∀ s₁ s₂, Q s₁ s₂ → Matched V (exec a₁ s₁).1 (exec a₂ s₂).1 ∧ Q (exec a₁ s₁).2 (exec a₂ s₂).2

namespace Coupled

variable {Q : S₁ → S₂ → Prop} {V : α₁ → α₂ → Prop} {W : β₁ → β₂ → Prop}

theorem pure {x₁ : α₁} {x₂ : α₂} (h : V x₁ x₂) :
    Coupled Q V (Pure.pure x₁ : ExceptT Error (StateM S₁) α₁)
      (Pure.pure x₂ : ExceptT Error (StateM S₂) α₂) :=
  fun _ _ hs => ⟨.ok h, hs⟩

theorem throw {e₁ e₂ : Error} (h : e₁.Alike e₂) :
    Coupled Q V (throw e₁ : ExceptT Error (StateM S₁) α₁)
      (throw e₂ : ExceptT Error (StateM S₂) α₂) :=
  fun _ _ hs => ⟨.error h, hs⟩

theorem bind {a₁ : ExceptT Error (StateM S₁) α₁} {a₂ : ExceptT Error (StateM S₂) α₂}
    {f₁ : α₁ → ExceptT Error (StateM S₁) β₁} {f₂ : α₂ → ExceptT Error (StateM S₂) β₂}
    (ha : Coupled Q V a₁ a₂) (hf : ∀ x₁ x₂, V x₁ x₂ → Coupled Q W (f₁ x₁) (f₂ x₂)) :
    Coupled Q W (a₁ >>= f₁) (a₂ >>= f₂) := by
  intro s₁ s₂ hs
  obtain ⟨hres, hs'⟩ := ha s₁ s₂ hs
  rw [exec_bind, exec_bind]
  rcases h₁ : exec a₁ s₁ with ⟨res₁, s₁'⟩
  rcases h₂ : exec a₂ s₂ with ⟨res₂, s₂'⟩
  rw [h₁, h₂] at hres hs'
  cases hres with
  | ok hx => exact hf _ _ hx s₁' s₂' hs'
  | error he => exact ⟨.error he, hs'⟩

theorem mono {V' : α₁ → α₂ → Prop} {a₁ : ExceptT Error (StateM S₁) α₁}
    {a₂ : ExceptT Error (StateM S₂) α₂} (ha : Coupled Q V a₁ a₂)
    (hV : ∀ x₁ x₂, V x₁ x₂ → V' x₁ x₂) : Coupled Q V' a₁ a₂ := fun s₁ s₂ hs =>
  let ⟨hres, hs'⟩ := ha s₁ s₂ hs
  ⟨hres.mono hV, hs'⟩

/-- Where the values are the same, what follows may depend on them. -/
theorem seq {a₁ : ExceptT Error (StateM S₁) α} {a₂ : ExceptT Error (StateM S₂) α}
    {f₁ : α → ExceptT Error (StateM S₁) β₁} {f₂ : α → ExceptT Error (StateM S₂) β₂}
    (ha : Coupled Q Eq a₁ a₂) (hf : ∀ x, Coupled Q W (f₁ x) (f₂ x)) :
    Coupled Q W (a₁ >>= f₁) (a₂ >>= f₂) :=
  ha.bind fun x₁ _ hx => hx ▸ hf x₁

theorem bind_get {f₁ : S₁ → ExceptT Error (StateM S₁) β₁} {f₂ : S₂ → ExceptT Error (StateM S₂) β₂}
    (hf : ∀ s₁ s₂, Q s₁ s₂ → Coupled Q W (f₁ s₁) (f₂ s₂)) :
    Coupled Q W (get >>= f₁) (get >>= f₂) := by
  intro s₁ s₂ hs
  rw [exec_bind, exec_bind]
  exact hf s₁ s₂ hs s₁ s₂ hs

theorem modifyGet {f₁ : S₁ → α × S₁} {f₂ : S₂ → α × S₂}
    (hf : ∀ s₁ s₂, Q s₁ s₂ → (f₁ s₁).1 = (f₂ s₂).1 ∧ Q (f₁ s₁).2 (f₂ s₂).2) :
    Coupled Q Eq (MonadStateOf.modifyGet f₁ : ExceptT Error (StateM S₁) α)
      (MonadStateOf.modifyGet f₂ : ExceptT Error (StateM S₂) α) :=
  fun s₁ s₂ hs => ⟨.ok (hf s₁ s₂ hs).1, (hf s₁ s₂ hs).2⟩

theorem foldlM {f₁ : β → α → ExceptT Error (StateM S₁) β} {f₂ : β → α → ExceptT Error (StateM S₂) β}
    (hf : ∀ x y, Coupled Q Eq (f₁ x y) (f₂ x y)) (xs : List α) (x : β) :
    Coupled Q Eq (xs.foldlM f₁ x) (xs.foldlM f₂ x) := by
  induction xs generalizing x with
  | nil => exact .pure rfl
  | cons y ys ih =>
      rw [List.foldlM_cons, List.foldlM_cons]
      exact .seq (hf x y) ih

end Coupled

/-! ## Actions -/

/-- Worlds with related surroundings, whose logs differ in texts of the service only. -/
structure World.Alike (R : σ₁ → σ₂ → Prop) (w₁ : World σ₁) (w₂ : World σ₂) : Prop where
  outside : R w₁.outside w₂.outside
  files : w₁.files = w₂.files
  staged : w₁.staged = w₂.staged
  tokens : w₁.tokens = w₂.tokens
  log : List.Forall₂ LogEntry.Alike w₁.log w₂.log

/-- Actions on the world that are coupled. -/
abbrev Action.Coupled (R : σ₁ → σ₂ → Prop) (a₁ : Action σ₁ α) (a₂ : Action σ₂ α) : Prop :=
  Session.Coupled (World.Alike R) Eq a₁ a₂

variable {R : σ₁ → σ₂ → Prop} {env₁ : Environment σ₁} {env₂ : Environment σ₂}

namespace Action

theorem coupled_ofExcept (res : Except Error α) :
    Coupled R (ofExcept res : Action σ₁ α) (ofExcept res : Action σ₂ α) := by
  intro w₁ w₂ hw
  rw [exec_ofExcept, exec_ofExcept]
  exact ⟨.refl res, hw⟩

theorem coupled_emit (e : Chat.Event) :
    Coupled R (emit e : Action σ₁ Unit) (emit e : Action σ₂ Unit) :=
  .modifyGet fun _ _ hw => ⟨rfl, { hw with log := .cons (.event e) hw.log }⟩

theorem coupled_stage (files : List StagedFile) :
    Coupled R (stage files : Action σ₁ Unit) (stage files : Action σ₂ Unit) :=
  .modifyGet fun _ _ hw =>
    ⟨rfl, { hw with staged := congrArg (Staging.Store.registerAll · files) hw.staged }⟩

theorem coupled_wait (henv : Environment.Alike R env₁ env₂) (ms : Nat) :
    Coupled R (wait env₁ ms) (wait env₂ ms) :=
  .modifyGet fun w₁ w₂ hw => by
    obtain ⟨hcancelled, houtside⟩ := henv.wait hw.outside ms
    have htokens :
        (env₁.wait w₁.outside ms).1.foldl Tokens.cancel w₁.tokens =
          (env₂.wait w₂.outside ms).1.foldl Tokens.cancel w₂.tokens := by
      rw [hcancelled, hw.tokens]
    exact ⟨rfl, houtside, hw.files, hw.staged, htokens, .cons (.waited ms) hw.log⟩

theorem coupled_freshId (henv : Environment.Alike R env₁ env₂) :
    Coupled R (freshId env₁) (freshId env₂) :=
  .modifyGet fun _ _ hw =>
    ⟨(henv.freshId hw.outside).1, { hw with outside := (henv.freshId hw.outside).2 }⟩

theorem coupled_newToken : Coupled R (newToken : Action σ₁ Token) (newToken : Action σ₂ Token) :=
  .modifyGet fun _ _ hw =>
    ⟨congrArg (Tokens.fresh · |>.1) hw.tokens,
      { hw with tokens := congrArg (Tokens.fresh · |>.2) hw.tokens }⟩

theorem coupled_childToken (t : Token) :
    Coupled R (childToken t : Action σ₁ Token) (childToken t : Action σ₂ Token) :=
  .modifyGet fun _ _ hw =>
    ⟨congrArg (Tokens.child · t |>.1) hw.tokens,
      { hw with tokens := congrArg (Tokens.child · t |>.2) hw.tokens }⟩

theorem coupled_cancel (t : Token) :
    Coupled R (cancel t : Action σ₁ Unit) (cancel t : Action σ₂ Unit) :=
  .modifyGet fun _ _ hw => ⟨rfl, { hw with tokens := congrArg (Tokens.cancel · t) hw.tokens }⟩

theorem coupled_isCancelled (t : Token) :
    Coupled R (isCancelled t : Action σ₁ Bool) (isCancelled t : Action σ₂ Bool) :=
  .bind_get fun _ _ hw => .pure (congrArg (Tokens.isCancelled · t) hw.tokens)

/-- A call is answered alike. -/
theorem coupled_question (henv : Environment.Alike R env₁ env₂) (c : Call)
    {wrap : Service.Error → Error} (hwrap : ∀ e₁ e₂, e₁.Alike e₂ → (wrap e₁).Alike (wrap e₂)) :
    Session.Coupled (World.Alike R) (fun x₁ x₂ => c.Alike (.ok x₁) (.ok x₂)) (call env₁ c wrap)
      (call env₂ c wrap) := by
  intro w₁ w₂ hw
  rw [exec_call, exec_call]
  have hresult := henv.result hw.outside c
  have htokens :
      (env₁.serve w₁.outside c).cancelled.foldl Tokens.cancel w₁.tokens =
        (env₂.serve w₂.outside c).cancelled.foldl Tokens.cancel w₂.tokens := by
    rw [henv.cancelled hw.outside, hw.tokens]
  refine ⟨?_, henv.outside hw.outside c, hw.files, hw.staged, htokens,
    .cons (.call hresult) hw.log⟩
  generalize (env₁.serve w₁.outside c).result = res₁ at hresult
  generalize (env₂.serve w₂.outside c).result = res₂ at hresult
  cases hresult with
  | refl =>
      cases res₁ with
      | ok x => exact .ok .refl
      | error e => exact .error (.refl _)
  | failed h => exact .error (hwrap _ _ h)
  | unknown h₁ h₂ => exact .ok (.unknown h₁ h₂)

theorem eq_of_alike {c : Call} (hc : ∀ conversationId id, c ≠ .getCodeGeneration conversationId id)
    {x₁ x₂ : c.Answer} (h : c.Alike (.ok x₁) (.ok x₂)) : x₁ = x₂ := by
  cases h with
  | refl => rfl
  | unknown => exact absurd rfl (hc _ _)

/-- Answers that are no statuses are the same. -/
theorem coupled_call (henv : Environment.Alike R env₁ env₂) (c : Call)
    {wrap : Service.Error → Error} (hwrap : ∀ e₁ e₂, e₁.Alike e₂ → (wrap e₁).Alike (wrap e₂))
    (hc : ∀ conversationId id, c ≠ .getCodeGeneration conversationId id) :
    Coupled R (call env₁ c wrap) (call env₂ c wrap) :=
  (coupled_question henv c hwrap).mono fun _ _ => eq_of_alike hc

end Action

theorem coupled_uploadWorkspace (henv : Environment.Alike R env₁ env₂) (c : Context) :
    Action.Coupled R (uploadWorkspace env₁ c) (uploadWorkspace env₂ c) := by
  refine .bind_get fun w₁ w₂ hw => ?_
  rw [hw.files, henv.format]
  refine .seq (Action.coupled_ofExcept _) fun snapshot => ?_
  refine .seq (Action.coupled_call henv _ (fun _ _ => .serverSide) nofun) fun slot => ?_
  exact .seq (Action.coupled_call henv (.upload _ _ _ _) (fun _ _ => .uploadCode) nofun)
    fun _ => .pure rfl

theorem coupled_collect (henv : Environment.Alike R env₁ env₂) (job : Job) :
    Action.Coupled R (Job.collect env₁ job) (Job.collect env₂ job) := by
  refine .seq (Action.coupled_call henv _ (fun _ _ => .serverSide) nofun) fun result => ?_
  exact .seq (Action.coupled_stage _) fun _ => .pure rfl

/-- A status that nobody knows ends the job with an error, whatever it is. -/
theorem coupled_poll (henv : Environment.Alike R env₁ env₂) (pauseMs : Nat) (job : Job) (n : Nat) :
    Action.Coupled R (Job.poll env₁ pauseMs job n) (Job.poll env₂ pauseMs job n) := by
  induction n with
  | zero =>
      refine .seq (Action.coupled_isCancelled _) fun cancelled => ?_
      cases cancelled with
      | true => exact .pure rfl
      | false => exact .throw (.refl _)
  | succ n ih =>
      refine .seq (Action.coupled_isCancelled _) fun cancelled => ?_
      cases cancelled with
      | true => exact .pure rfl
      | false =>
          refine (Action.coupled_question henv _ fun _ _ => .serverSide).bind
            fun text₁ text₂ h => ?_
          cases h with
          | refl =>
              cases JobStatus.ofText text₁ with
              | inProgress | predictReady =>
                  exact .seq (Action.coupled_wait henv _) fun _ => ih
              | failed | predictFailed | debateFailed | unknown => exact .throw (.refl _)
              | complete => exact .seq (coupled_collect henv job) fun _ => .pure rfl
          | unknown h₁ h₂ =>
              rw [h₁, h₂]
              exact .throw (.unknownCodeGenStatus _ _)

theorem coupled_requestApproach (henv : Environment.Alike R env₁ env₂) (c : Context)
    (message : String) :
    Action.Coupled R (State.requestApproach env₁ c message)
      (State.requestApproach env₂ c message) := by
  refine .seq (Action.coupled_ofExcept _) fun uploadId => ?_
  exact .seq (Action.coupled_call henv _ (fun _ _ => .serverSide) nofun) fun _ => .pure rfl

theorem coupled_announceChanges (tabId uploadId : String) (changes : Changes) :
    Action.Coupled R (State.announceChanges tabId uploadId changes : Action σ₁ Unit)
      (State.announceChanges tabId uploadId changes : Action σ₂ Unit) :=
  .seq (Action.coupled_emit _) fun _ => Action.coupled_emit _

theorem coupled_runGeneration (henv : Environment.Alike R env₁ env₂) (s : State) (c : Context)
    (message : Option String) :
    Action.Coupled R (State.runGeneration env₁ s c message)
      (State.runGeneration env₂ s c message) := by
  refine .seq (Action.coupled_ofExcept _) fun uploadId => ?_
  refine .seq (Action.coupled_call henv _ (fun _ _ => .serverSide) nofun) fun id => ?_
  refine .seq (Action.coupled_emit _) fun _ => ?_
  refine .seq (coupled_poll henv _ _ _) fun result => ?_
  cases result with
  | cancelled => exact .pure rfl
  | complete changes => exact .seq (coupled_announceChanges _ _ _) fun _ => .pure rfl

/-! ## Handlers -/

/-- Equal states, and worlds that are alike. -/
structure Acting.Alike (R : σ₁ → σ₂ → Prop) (h₁ : Acting σ₁) (h₂ : Acting σ₂) : Prop where
  state : h₁.state = h₂.state
  world : World.Alike R h₁.world h₂.world

/-- Handlers that are coupled. -/
abbrev Handler.Coupled (R : σ₁ → σ₂ → Prop) (a₁ : Handler σ₁ α) (a₂ : Handler σ₂ α) : Prop :=
  Session.Coupled (Acting.Alike R) Eq a₁ a₂

namespace Handler

theorem coupled_act {a₁ : Action σ₁ α} {a₂ : Action σ₂ α} (ha : Action.Coupled R a₁ a₂) :
    Coupled R (act a₁) (act a₂) := fun h₁ h₂ hh =>
  let ⟨hres, hw⟩ := ha h₁.world h₂.world hh.world
  ⟨hres, hh.state, hw⟩

theorem coupled_update (f : State → State) :
    Coupled R (update f : Handler σ₁ Unit) (update f : Handler σ₂ Unit) :=
  .modifyGet fun _ _ hh => ⟨rfl, congrArg f hh.state, hh.world⟩

theorem coupled_delegate {a₁ : Handler σ₁ α} {a₂ : Handler σ₂ α} (ha : Coupled R a₁ a₂)
    (s : State) : Coupled R (delegate s a₁) (delegate s a₂) := fun h₁ h₂ hh =>
  let ⟨hres, hother⟩ := ha { h₁ with state := s } { h₂ with state := s } ⟨rfl, hh.world⟩
  ⟨hres, hh.state, hother.world⟩

end Handler

theorem coupled_draft (henv : Environment.Alike R env₁ env₂) (c : Context) (iteration : UInt32)
    (message : Option String) :
    Handler.Coupled R (State.draft env₁ c iteration message)
      (State.draft env₂ c iteration message) := by
  refine .seq (Handler.coupled_act (Action.coupled_ofExcept _)) fun text => ?_
  refine .seq (Handler.coupled_act (coupled_requestApproach henv _ _)) fun approach => ?_
  refine .seq (Handler.coupled_update _) fun _ => ?_
  refine .bind_get ?_
  rintro ⟨s, w₁⟩ ⟨_, w₂⟩ ⟨rfl, hw⟩
  refine .seq (Handler.coupled_act (Action.coupled_emit _)) fun _ => ?_
  exact .seq (Handler.coupled_act Action.coupled_newToken) fun _ => .pure rfl

theorem coupled_generate (henv : Environment.Alike R env₁ env₂) (c : Context) (iteration : UInt32)
    (message : Option String) (keep : Changes → Stage) :
    Handler.Coupled R (State.generate env₁ c iteration message keep)
      (State.generate env₂ c iteration message keep) := by
  refine .bind_get ?_
  rintro ⟨s, w₁⟩ ⟨_, w₂⟩ ⟨rfl, hw⟩
  refine .seq (Handler.coupled_act (coupled_runGeneration henv _ _ _)) fun changes => ?_
  refine .seq (Handler.coupled_update _) fun _ => ?_
  exact .seq (Handler.coupled_act Action.coupled_newToken) fun _ => .pure rfl

theorem coupled_regenerate (henv : Environment.Alike R env₁ env₂) (c : Context) (iteration : UInt32)
    (message : Option String) :
    Handler.Coupled R (State.regenerate env₁ c iteration message)
      (State.regenerate env₂ c iteration message) :=
  .seq (Handler.coupled_act (Action.coupled_ofExcept _)) fun _ => coupled_generate henv _ _ _ _

theorem coupled_mock (c : Context) (uploadId : String) :
    Handler.Coupled R (State.mock c uploadId : Handler σ₁ Outcome)
      (State.mock c uploadId : Handler σ₂ Outcome) := by
  refine .bind_get ?_
  rintro ⟨s, w₁⟩ ⟨_, w₂⟩ ⟨rfl, hw⟩
  refine .bind_get fun h₁ h₂ hh => ?_
  rw [hh.world.files]
  cases mockFiles h₂.world.files c.root with
  | error => exact .seq (Handler.coupled_act Action.coupled_newToken) fun _ => .pure rfl
  | ok found =>
      refine .seq (Handler.coupled_act (Action.coupled_stage _)) fun _ => ?_
      refine .seq (Handler.coupled_update _) fun _ => ?_
      refine .seq (Handler.coupled_act (coupled_announceChanges _ _ _)) fun _ => ?_
      exact .seq (Handler.coupled_act Action.coupled_newToken) fun _ => .pure rfl

theorem coupled_begin (henv : Environment.Alike R env₁ env₂) (c : Context)
    (message : Option String) :
    Handler.Coupled R (State.begin env₁ c message) (State.begin env₂ c message) := by
  refine .seq (Handler.coupled_act (Action.coupled_ofExcept _)) fun _ => ?_
  refine .seq (Handler.coupled_act (coupled_uploadWorkspace henv _)) fun uploadId => ?_
  refine .bind_get ?_
  rintro ⟨s, w₁⟩ ⟨_, w₂⟩ ⟨rfl, hw⟩
  refine .seq (Handler.coupled_act (Action.coupled_childToken _)) fun token => ?_
  exact Handler.coupled_delegate (coupled_draft henv _ _ _) _

theorem coupled_divert (henv : Environment.Alike R env₁ env₂) (c : Context) :
    Handler.Coupled R (State.divert env₁ c) (State.divert env₂ c) := by
  refine .seq (Handler.coupled_act (Action.coupled_freshId henv)) fun uploadId => ?_
  refine .bind_get ?_
  rintro ⟨s, w₁⟩ ⟨_, w₂⟩ ⟨rfl, hw⟩
  refine .seq (Handler.coupled_act (Action.coupled_childToken _)) fun token => ?_
  exact Handler.coupled_delegate (coupled_mock _ _) _

theorem coupled_rework (henv : Environment.Alike R env₁ env₂) (c : Context) (iteration : UInt32)
    (message : Option String) :
    Handler.Coupled R (State.rework env₁ c iteration message)
      (State.rework env₂ c iteration message) := by
  refine .seq (Handler.coupled_act (Action.coupled_ofExcept _)) fun _ => ?_
  refine .seq (Handler.coupled_act (coupled_uploadWorkspace henv _)) fun uploadId => ?_
  refine .bind_get ?_
  rintro ⟨s, w₁⟩ ⟨_, w₂⟩ ⟨rfl, hw⟩
  refine .seq (Handler.coupled_act (Action.coupled_childToken _)) fun token => ?_
  exact Handler.coupled_delegate (coupled_regenerate henv _ _ _) _

theorem coupled_interact (henv : Environment.Alike R env₁ env₂) (message : Option String) :
    Handler.Coupled R (State.interact env₁ message) (State.interact env₂ message) := by
  refine .bind_get fun h₁ h₂ hh => ?_
  rw [hh.state]
  cases h₂.state.stage with
  | notStarted => exact .throw (.refl _)
  | awaitingTask c => exact coupled_begin henv c message
  | drafting c iteration => exact coupled_draft henv c iteration message
  | revising c iteration =>
      cases hm : State.wantsMock message with
      | true => exact coupled_divert henv c
      | false => exact coupled_draft henv c iteration message
  | generating c iteration => exact coupled_generate henv c iteration none _
  | mocking c uploadId => exact coupled_mock c uploadId
  | reviewing c iteration => exact coupled_rework henv c iteration message
  | regenerating c iteration => exact coupled_regenerate henv c iteration message

/-! ## Operations -/

/-- Equal sessions, and worlds that are alike. -/
structure Running.Alike (R : σ₁ → σ₂ → Prop) (r₁ : Running σ₁) (r₂ : Running σ₂) : Prop where
  session : r₁.session = r₂.session
  world : World.Alike R r₁.world r₂.world

/-- Operations that are coupled. -/
abbrev Operation.Coupled (R : σ₁ → σ₂ → Prop) (o₁ : Operation σ₁ α) (o₂ : Operation σ₂ α) : Prop :=
  Session.Coupled (Running.Alike R) Eq o₁ o₂

namespace Operation

theorem coupled_act {a₁ : Action σ₁ α} {a₂ : Action σ₂ α} (ha : Action.Coupled R a₁ a₂) :
    Coupled R (act a₁) (act a₂) := fun r₁ r₂ hr =>
  let ⟨hres, hw⟩ := ha r₁.world r₂.world hr.world
  ⟨hres, hr.session, hw⟩

theorem coupled_update (f : Session → Session) :
    Coupled R (update f : Operation σ₁ Unit) (update f : Operation σ₂ Unit) :=
  .modifyGet fun _ _ hr => ⟨rfl, congrArg f hr.session, hr.world⟩

theorem coupled_handle {a₁ : Handler σ₁ α} {a₂ : Handler σ₂ α} (ha : Handler.Coupled R a₁ a₂) :
    Coupled R (handle a₁) (handle a₂) := by
  rintro ⟨x, w₁⟩ ⟨_, w₂⟩ ⟨rfl, hw⟩
  obtain ⟨hres, hstate, hw'⟩ := ha ⟨x.state, w₁⟩ ⟨x.state, w₂⟩ ⟨rfl, hw⟩
  exact ⟨hres, congrArg (fun state => { x with state }) hstate, hw'⟩

theorem coupled_attempt {o₁ : Operation σ₁ α} {o₂ : Operation σ₂ α} (ho : Coupled R o₁ o₂) :
    Session.Coupled (Running.Alike R) (Matched Eq) (attempt o₁) (attempt o₂) := fun r₁ r₂ hr =>
  let ⟨hres, hr'⟩ := ho r₁ r₂ hr
  ⟨.ok hres, hr'⟩

end Operation

theorem coupled_preload (henv : Environment.Alike R env₁ env₂) (message : String) :
    Operation.Coupled R (preload env₁ message) (preload env₂ message) := by
  refine .bind_get ?_
  rintro ⟨x, w₁⟩ ⟨_, w₂⟩ ⟨rfl, hw⟩
  dsimp only
  cases x.state.stage with
  | notStarted =>
      refine .seq (Operation.coupled_act
        (Action.coupled_call henv _ (fun _ _ => .serverSide) nofun)) fun id => ?_
      refine .seq (Operation.coupled_act Action.coupled_newToken) fun token => ?_
      exact Operation.coupled_update _
  | _ => exact .pure rfl

theorem coupled_renewToken :
    Operation.Coupled R (renewToken : Operation σ₁ Unit) (renewToken : Operation σ₂ Unit) := by
  refine .bind_get ?_
  rintro ⟨x, w₁⟩ ⟨_, w₂⟩ ⟨rfl, hw⟩
  dsimp only
  rw [hw.tokens]
  cases w₂.tokens.isCancelled x.state.token with
  | false => exact .pure rfl
  | true =>
      exact .seq (Operation.coupled_act Action.coupled_newToken) fun _ =>
        Operation.coupled_update _

theorem coupled_forward (henv : Environment.Alike R env₁ env₂) (message : Option String) :
    Operation.Coupled R (forward env₁ message) (forward env₂ message) := by
  refine .bind_get ?_
  rintro ⟨x, w₁⟩ ⟨_, w₂⟩ ⟨rfl, hw⟩
  refine .seq (Operation.coupled_act (Action.coupled_emit _)) fun _ => ?_
  refine (Operation.coupled_attempt
    (Operation.coupled_handle (coupled_interact henv message))).bind fun res₁ res₂ hres => ?_
  refine .seq (Operation.coupled_act (Action.coupled_emit _)) fun _ => ?_
  cases hres with
  | error he => exact .seq coupled_renewToken fun _ => .throw he
  | ok houtcome =>
      subst houtcome
      refine .bind_get ?_
      rintro ⟨x, w₁⟩ ⟨_, w₂⟩ ⟨rfl, hw⟩
      refine .seq (Operation.coupled_act (Action.coupled_cancel _)) fun _ => ?_
      exact .seq (Operation.coupled_update _) fun _ => .pure rfl

theorem coupled_send (henv : Environment.Alike R env₁ env₂) (message : String) :
    Operation.Coupled R (send env₁ message) (send env₂ message) :=
  .seq (Operation.coupled_update _) fun _ => coupled_forward henv _

theorem coupled_retry (henv : Environment.Alike R env₁ env₂) :
    Operation.Coupled R (retry env₁) (retry env₂) :=
  .bind_get fun _ _ hr => hr.session ▸ coupled_forward henv _

theorem coupled_acceptPlan :
    Operation.Coupled R (acceptPlan : Operation σ₁ Unit) (acceptPlan : Operation σ₂ Unit) := by
  refine .bind_get ?_
  rintro ⟨x, w₁⟩ ⟨_, w₂⟩ ⟨rfl, hw⟩
  dsimp only
  cases x.state.stage with
  | generating => exact .pure rfl
  | revising c =>
      refine .seq (Operation.coupled_act (Action.coupled_ofExcept _)) fun _ => ?_
      refine .seq (Operation.coupled_act Action.coupled_newToken) fun _ => ?_
      exact Operation.coupled_update _
  | notStarted | awaitingTask | drafting | mocking | reviewing | regenerating =>
      exact .throw (.refl _)

theorem coupled_generateCode (henv : Environment.Alike R env₁ env₂) :
    Operation.Coupled R (generateCode env₁) (generateCode env₂) := by
  refine .seq coupled_acceptPlan fun _ => .bind_get ?_
  rintro ⟨x, w₁⟩ ⟨_, w₂⟩ ⟨rfl, hw⟩
  refine .seq (Operation.coupled_act (Action.coupled_emit _)) fun _ => ?_
  refine .seq (Operation.coupled_act (Action.coupled_emit _)) fun _ => ?_
  refine (Operation.coupled_attempt (coupled_forward henv none)).bind fun res₁ res₂ hres => ?_
  refine .seq (Operation.coupled_act (Action.coupled_emit _)) fun _ => ?_
  refine .seq (Operation.coupled_act (Action.coupled_emit _)) fun _ => ?_
  cases hres with
  | ok hcontent => exact .pure hcontent
  | error he => exact .throw he

theorem coupled_changeFiles
    (f : FileSystem → FileSystem × Except FileSystem.ChangeError α) :
    Action.Coupled R (changeFiles f : Action σ₁ α) (changeFiles f : Action σ₂ α) := by
  refine .seq (.modifyGet fun w₁ w₂ hw => ?_) fun result => ?_
  · exact ⟨congrArg (fun fs => (f fs).2) hw.files,
      { hw with files := congrArg (fun fs => (f fs).1) hw.files }⟩
  · cases result with
    | ok a => exact .pure rfl
    | error e => exact .throw (.refl _)

theorem coupled_writeStaged (disk : Disk) (root : Path) (done : Accepted) (f : StagedFile) :
    Action.Coupled R (writeStaged disk root done f : Action σ₁ Accepted)
      (writeStaged disk root done f : Action σ₂ Accepted) := by
  unfold writeStaged
  cases root.inWorkspace? f.path with
  | none => exact .pure rfl
  | some p => exact .seq (coupled_changeFiles _) fun _ => .pure rfl

theorem coupled_deleteStaged (root : Path) (done : Accepted) (path : String) :
    Action.Coupled R (deleteStaged root done path : Action σ₁ Accepted)
      (deleteStaged root done path : Action σ₂ Accepted) := by
  unfold deleteStaged
  cases root.inWorkspace? path with
  | none => exact .pure rfl
  | some p =>
      refine .seq (coupled_changeFiles _) fun dropped => ?_
      cases dropped with
      | true | false => exact .pure rfl

theorem coupled_acceptChanges (disk : Disk) :
    Operation.Coupled R (acceptChanges disk : Operation σ₁ Accepted)
      (acceptChanges disk : Operation σ₂ Accepted) := by
  refine .bind_get ?_
  rintro ⟨x, w₁⟩ ⟨_, w₂⟩ ⟨rfl, hw⟩
  refine .seq (Operation.coupled_act (.foldlM (coupled_writeStaged disk _) _ _)) fun written => ?_
  refine .seq (Operation.coupled_act (.foldlM (coupled_deleteStaged _) _ _)) fun done => ?_
  exact .seq (Operation.coupled_act (Action.coupled_emit _)) fun _ => .pure rfl

/-- Of an error the user is told the same, whatever the service has said. -/
theorem coupled_handleError {e₁ e₂ : Error} (he : e₁.Alike e₂) :
    Operation.Coupled R (handleError e₁ : Operation σ₁ Unit)
      (handleError e₂ : Operation σ₂ Unit) := by
  have hretries : (fun x : Session => { x with retries := Session.retriesAfter x.retries e₁ }) =
      fun x : Session => { x with retries := Session.retriesAfter x.retries e₂ } :=
    funext fun x => by rw [he.retriesAfter]
  unfold handleError
  rw [hretries]
  refine .seq (Operation.coupled_update _) fun _ => .bind_get ?_
  rintro ⟨x, w₁⟩ ⟨_, w₂⟩ ⟨rfl, hw⟩
  dsimp only
  rw [he.userCopy]
  exact Operation.coupled_act (Action.coupled_emit _)

theorem coupled_perform (henv : Environment.Alike R env₁ env₂) (m : Move) :
    Operation.Coupled R (m.perform env₁) (m.perform env₂) := by
  cases m with
  | preload message => exact .seq (coupled_preload henv message) fun _ => .pure rfl
  | send message => exact .seq (coupled_send henv message) fun _ => .pure rfl
  | retry => exact .seq (coupled_retry henv) fun _ => .pure rfl
  | acceptPlan => exact .seq coupled_acceptPlan fun _ => .pure rfl
  | generateCode => exact .seq (coupled_generateCode henv) fun _ => .pure rfl
  | acceptChanges disk => exact .seq (coupled_acceptChanges disk) fun _ => .pure rfl
  | handleError e => exact .seq (coupled_handleError (.refl e)) fun _ => .pure rfl
  | cancel t =>
      exact .seq (Operation.coupled_act (Action.coupled_cancel t)) fun _ => .pure rfl
  | edit files =>
      exact .seq (Operation.coupled_act (.modifyGet fun _ _ hw => ⟨rfl, { hw with files := rfl }⟩))
        fun _ => .pure rfl

/-! ## Reported runs -/

/-- A move; if it fails the user is told. -/
def Move.report (env : Environment σ) (m : Move) (r : Running σ) :
    Except Error Reply × Running σ :=
  match exec (m.perform env) r with
  | (.ok reply, r) => (.ok reply, r)
  | (.error e, r) => (.error e, (exec (Session.handleError e) r).2)

/-- The result of each of some moves, and the session and the world after it. -/
def reports (env : Environment σ) (r : Running σ) :
    List Move → List (Except Error Reply × Running σ)
  | [] => []
  | m :: moves => m.report env r :: reports env (m.report env r).2 moves

theorem report_alike (henv : Environment.Alike R env₁ env₂) (m : Move) {r₁ : Running σ₁}
    {r₂ : Running σ₂} (hr : Running.Alike R r₁ r₂) :
    Matched Eq (m.report env₁ r₁).1 (m.report env₂ r₂).1 ∧
      Running.Alike R (m.report env₁ r₁).2 (m.report env₂ r₂).2 := by
  obtain ⟨hres, hr'⟩ := coupled_perform henv m r₁ r₂ hr
  unfold Move.report
  rcases h₁ : exec (m.perform env₁) r₁ with ⟨res₁, r₁'⟩
  rcases h₂ : exec (m.perform env₂) r₂ with ⟨res₂, r₂'⟩
  rw [h₁, h₂] at hres hr'
  cases hres with
  | ok hreply => exact ⟨.ok hreply, hr'⟩
  | error he => exact ⟨.error he, (coupled_handleError he r₁' r₂' hr').2⟩

theorem reports_alike (henv : Environment.Alike R env₁ env₂) (moves : List Move) {r₁ : Running σ₁}
    {r₂ : Running σ₂} (hr : Running.Alike R r₁ r₂) :
    List.Forall₂ (fun a₁ a₂ => Matched Eq a₁.1 a₂.1 ∧ Running.Alike R a₁.2 a₂.2)
      (reports env₁ r₁ moves) (reports env₂ r₂ moves) := by
  induction moves generalizing r₁ r₂ with
  | nil => exact .nil
  | cons m moves ih =>
      have hm := report_alike henv m hr
      exact .cons hm (ih hm.2)

theorem filterMap_alike {log₁ log₂ : List LogEntry} (h : List.Forall₂ LogEntry.Alike log₁ log₂)
    {f : LogEntry → Option α} (hf : ∀ e₁ e₂ : LogEntry, e₁.Alike e₂ → f e₁ = f e₂) :
    log₁.filterMap f = log₂.filterMap f := by
  induction h with
  | nil => rfl
  | cons he _ ih => rw [List.filterMap_cons, List.filterMap_cons, hf _ _ he, ih]

/-- Where two services answer alike, but for the texts of errors and of unknown statuses, runs of
the same moves go on in the same way, and results differ in these texts only. -/
theorem texts_stay_in_errors {R : σ₁ → σ₂ → Prop} {env₁ : Environment σ₁} {env₂ : Environment σ₂}
    (henv : Environment.Alike R env₁ env₂) {s₁ : σ₁} {s₂ : σ₂} (hs : R s₁ s₂) (settings : Settings)
    (root : Path) (tabId : String) (files : FileSystem) (moves : List Move) :
    List.Forall₂ (fun a₁ a₂ =>
        Matched Eq a₁.1 a₂.1 ∧ a₁.2.session = a₂.2.session ∧
        a₁.2.world.staged = a₂.2.world.staged ∧ a₁.2.world.files = a₂.2.world.files ∧
        a₁.2.world.tokens = a₂.2.world.tokens ∧
        a₁.2.world.log.filterMap LogEntry.event? = a₂.2.world.log.filterMap LogEntry.event? ∧
        a₁.2.world.log.filterMap LogEntry.call? = a₂.2.world.log.filterMap LogEntry.call?)
      (reports env₁ (Session.new settings root tabId s₁ files) moves)
      (reports env₂ (Session.new settings root tabId s₂ files) moves) := by
  have hr : Running.Alike R (Session.new settings root tabId s₁ files)
      (Session.new settings root tabId s₂ files) := ⟨rfl, hs, rfl, rfl, rfl, .nil⟩
  refine (reports_alike henv moves hr).imp fun a₁ a₂ ⟨hres, hsession, hw⟩ => ?_
  refine ⟨hres, hsession, hw.staged, hw.files, hw.tokens, filterMap_alike hw.log fun _ _ he => ?_,
    filterMap_alike hw.log fun _ _ he => ?_⟩
  · cases he with
    | call | event | waited => rfl
  · cases he with
    | call | event | waited => rfl

/-- A service that says this about every job. -/
def vague (text : String) : Environment Unit where
  serve outside
    | .getCodeGeneration _ _ => { result := .ok text, outside }
    | c => (obliging (.ok "job") ⟨[], []⟩).serve outside c
  wait _ _ := ([], ())
  freshId _ := ("fresh", ())
  format := Workspace.Zip.format

theorem vague_alike (text₁ text₂ : String) {raw₁ raw₂ : String}
    (h₁ : JobStatus.ofText text₁ = .unknown raw₁) (h₂ : JobStatus.ofText text₂ = .unknown raw₂) :
    Environment.Alike Eq (vague text₁) (vague text₂) where
  result _ c := by
    cases c with
    | getCodeGeneration => exact .unknown h₁ h₂
    | _ => exact .refl
  cancelled _ c := by
    cases c <;> rfl
  outside _ _ := rfl
  wait _ _ := ⟨rfl, rfl⟩
  freshId _ := ⟨rfl, rfl⟩
  format := rfl

/-- Until a job is started, this service does as any other does. -/
theorem report_send_vague (text : String) :
    (Move.report (vague text) (.send "message")
        (Move.report (vague text) (.preload "task")
          (Session.new {} sampleRoot "tab" () sample)).2).2 =
      planned (obliging (.ok "job") ⟨[], []⟩) := by
  have hsend := perform_send_of_snapshot (vague text) (c := sampleContext)
    (r := (Move.report (vague text) (.preload "task")
      (Session.new {} sampleRoot "tab" () sample)).2) rfl take_sample "message"
  rw [Move.report, hsend, planned_obliging]
  rfl

theorem texts_stay_in_errors_vague :
    let start : Running Unit := Session.new {} sampleRoot "tab" () sample
    let moves : List Move := [.preload "task", .send "message", .generateCode]
    let late := reports (vague "late") start moves
    let lost := reports (vague "lost") start moves
    late.getLast?.map (·.1) = some (.error (.unknownCodeGenStatus "late")) ∧
      lost.getLast?.map (·.1) = some (.error (.unknownCodeGenStatus "lost")) ∧
      late.map (·.2.world.log.filterMap LogEntry.event?) =
        lost.map (·.2.world.log.filterMap LogEntry.event?) := by
  intro start moves late lost
  have halike := vague_alike "late" "lost" rfl rfl
  have h := texts_stay_in_errors halike (Eq.refl ()) {} sampleRoot "tab" sample moves
  have hlast (text : String) : (reports (vague text) start moves).getLast?.map (·.1) =
      some (Move.generateCode.report (vague text) (planned (obliging (.ok "job") ⟨[], []⟩))).1 := by
    rw [← report_send_vague text]
    rfl
  rw [planned_obliging] at hlast
  refine ⟨hlast "late", hlast "lost", ?_⟩
  rw [← List.forall₂_eq_eq_eq, List.forall₂_map_left_iff, List.forall₂_map_right_iff]
  exact h.imp fun _ _ ⟨_, _, _, _, _, hevents, _⟩ => hevents

end Session

end Codewright
