import Codewright.Proofs.Session.Transitions

/-!
# The order of calls

The ids that the service hands out come back to it in the right places: there is one conversation,
plans and jobs are asked for with the latest upload, and questions are about the latest job.
-/

namespace Codewright.Session

open Service (Call UploadSlot)
open Staging (StagedFile)
open Transcript
open Workspace (ArchiveFormat FileSystem Snapshot)

variable {σ : Type}

namespace LogEntry

/-- The conversation that the service has started. -/
def conversation? : LogEntry → Option String
  | .call .createConversation (.ok id) => some id
  | _ => none

/-- The place for an archive that the service has granted. -/
def slot? : LogEntry → Option UploadSlot
  | .call (.createUploadUrl _ _) (.ok slot) => some slot
  | _ => none

/-- The job that the service has started. -/
def job? : LogEntry → Option String
  | .call (.startCodeGeneration _ _ _) (.ok id) => some id
  | _ => none

end LogEntry

/-- Exactly one conversation has been started, and it has this id. -/
def InConversation (log : List LogEntry) (id : String) : Prop :=
  log.filterMap LogEntry.conversation? = [id]

/-- The latest place that was granted has this id, and since then the archive it was granted for has
been transferred to it. -/
def Uploaded (log : List LogEntry) (id : String) : Prop :=
  ∃ newer conversationId checksum slot older content,
    log = newer ++ .call (.createUploadUrl conversationId checksum) (.ok slot) :: older ∧
      (∀ e ∈ newer, e.slot? = none) ∧ slot.id = id ∧
      .call (.upload slot.url content checksum slot.kmsKeyArn) (.ok ()) ∈ newer

/-- A call carries the ids that follow from the log of what happened before it. -/
def Fits (log : List LogEntry) : Call → Prop
  | .createConversation =>
    log.filterMap LogEntry.conversation? = [] ∧
      ∀ c result, .call c result ∈ log → c = .createConversation
  | .createUploadUrl conversationId _ => InConversation log conversationId
  | .upload _ _ _ _ => ∃ conversationId, InConversation log conversationId
  | .generatePlan conversationId uploadId _ =>
    InConversation log conversationId ∧ Uploaded log uploadId
  | .startCodeGeneration conversationId uploadId _ =>
    InConversation log conversationId ∧ Uploaded log uploadId
  | .getCodeGeneration conversationId id =>
    InConversation log conversationId ∧ log.findSome? LogEntry.job? = some id
  | .exportResult conversationId => InConversation log conversationId

/-- Every call in a log, latest first, fits what is behind it. -/
def Consistent (log : List LogEntry) : Prop :=
  ∀ newer c result older, log = newer ++ .call c result :: older → Fits older c

/-- No conversation has been started, and nothing else has been asked for. -/
def Unstarted (log : List LogEntry) : Prop :=
  log.filterMap LogEntry.conversation? = [] ∧
    ∀ c result, .call c result ∈ log → c = .createConversation

/-! ## Growing logs -/

variable {log log' log'' t : List LogEntry} {id : String}

theorem InConversation.not_unstarted (h : InConversation log id) : ¬Unstarted log := by
  intro hu
  have : [id] = [] := h.symm.trans hu.1
  simp at this

theorem Consistent.nil : Consistent [] := by
  intro newer c result older h
  simp at h

theorem Consistent.cons {e : LogEntry} (h : Consistent log)
    (he : ∀ c result, e = .call c result → Fits log c) : Consistent (e :: log) := by
  intro newer c result older heq
  cases newer with
  | nil =>
      obtain ⟨rfl, rfl⟩ := List.cons.inj heq
      exact he c result rfl
  | cons _ newer => exact h newer c result older (List.cons.inj heq).2

theorem Consistent.call {c : Call} {result : Except Service.Error c.Answer} (h : Consistent log)
    (hc : Fits log c) : Consistent (.call c result :: log) := by
  refine h.cons ?_
  rintro _ _ ⟨⟩
  exact hc

theorem Fits.started {c : Call} (h : Fits log c) :
    c = .createConversation ∨ ∃ id, InConversation log id := by
  cases c with
  | createConversation => exact .inl rfl
  | upload => exact .inr h
  | createUploadUrl | exportResult => exact .inr ⟨_, h⟩
  | generatePlan | startCodeGeneration | getCodeGeneration => exact .inr ⟨_, h.1⟩

/-- One log goes on from another without a new conversation or a new place for an archive. -/
structure Continues (log log' : List LogEntry) : Prop where
  consistent : Consistent log → Consistent log'
  unstarted : Unstarted log → Unstarted log'
  inConversation : ∀ id, InConversation log id → InConversation log' id
  uploaded : ∀ id, Uploaded log id → Uploaded log' id

namespace Continues

theorem refl (log : List LogEntry) : Continues log log :=
  ⟨id, id, fun _ => id, fun _ => id⟩

theorem trans (h : Continues log log') (h' : Continues log' log'') : Continues log log'' where
  consistent := h'.consistent ∘ h.consistent
  unstarted := h'.unstarted ∘ h.unstarted
  inConversation id := h'.inConversation id ∘ h.inConversation id
  uploaded id := h'.uploaded id ∘ h.uploaded id

theorem cons {e : LogEntry} (hf : ∀ c result, e = .call c result → Fits log c)
    (hc : e.conversation? = none) (hs : e.slot? = none) : Continues log (e :: log) where
  consistent h := h.cons hf
  unstarted h := by
    refine ⟨by rw [List.filterMap_cons_none hc]; exact h.1, fun c result hm => ?_⟩
    rcases List.mem_cons.mp hm with he | hm
    · rcases (hf c result he.symm).started with rfl | ⟨id, hid⟩
      · rfl
      · exact absurd h hid.not_unstarted
    · exact h.2 c result hm
  inConversation id h := by
    rw [InConversation, List.filterMap_cons_none hc]
    exact h
  uploaded id h := by
    obtain ⟨newer, conversationId, checksum, slot, older, content, rfl, hn, hid, hu⟩ := h
    refine ⟨e :: newer, conversationId, checksum, slot, older, content, rfl, ?_, hid,
      List.mem_cons_of_mem e hu⟩
    intro e' he'
    rcases List.mem_cons.mp he' with rfl | he'
    · exact hs
    · exact hn e' he'

theorem call {c : Call} {result : Except Service.Error c.Answer} (hf : Fits log c)
    (hc : (LogEntry.call c result).conversation? = none)
    (hs : (LogEntry.call c result).slot? = none) : Continues log (.call c result :: log) := by
  refine cons ?_ hc hs
  rintro _ _ ⟨⟩
  exact hf

theorem event (e : Chat.Event) : Continues log (.event e :: log) :=
  cons (by rintro _ _ ⟨⟩) rfl rfl

theorem waited (ms : Nat) : Continues log (.waited ms :: log) :=
  cons (by rintro _ _ ⟨⟩) rfl rfl

end Continues

/-! ## What a state knows -/

/-- A plan or code can be asked for: the context has the conversation and the latest upload. -/
structure Context.Ready (c : Context) (log : List LogEntry) : Prop where
  inConversation : InConversation log c.conversationId
  uploaded : ∃ id, c.uploadId = some id ∧ Uploaded log id

theorem Context.Ready.uploaded_of {c : Context} (h : c.Ready log) (hid : c.uploadId = some id) :
    Uploaded log id := by
  obtain ⟨id', hid', hu⟩ := h.uploaded
  obtain rfl := Option.some.inj (hid'.symm.trans hid)
  exact hu

/-- The ids that a stage goes on with are those of the log. A stage that uploads the workspace anew
need not have the latest upload. -/
def Stage.Known (log : List LogEntry) : Stage → Prop
  | notStarted => Unstarted log
  | awaitingTask c | reviewing c _ _ => InConversation log c.conversationId
  | drafting c _ | revising c _ | generating c _ _ | mocking c _ _ | regenerating c _ _ =>
    c.Ready log

theorem Context.Ready.continues {c : Context} (h : c.Ready log) (hl : Continues log log') :
    c.Ready log' := by
  obtain ⟨id, hc, hu⟩ := h.uploaded
  exact ⟨hl.inConversation _ h.inConversation, id, hc, hl.uploaded id hu⟩

theorem Stage.Known.continues {s : Stage} (h : s.Known log) (hl : Continues log log') :
    s.Known log' := by
  cases s with
  | notStarted => exact hl.unstarted h
  | awaitingTask | reviewing => exact hl.inConversation _ h
  | drafting | revising | generating | mocking | regenerating =>
      exact Context.Ready.continues h hl

theorem Context.Ready.known {c : Context} {s : Stage} (h : c.Ready log) (hs : s.context? = some c) :
    s.Known log := by
  cases s with
  | notStarted => cases hs
  | awaitingTask | reviewing =>
      cases hs
      exact h.inConversation
  | drafting | revising | generating | mocking | regenerating =>
      cases hs
      exact h

/-- A log is consistent, and a stage can go on from it. -/
structure Stage.InOrder (s : Stage) (log : List LogEntry) : Prop where
  consistent : Consistent log
  known : s.Known log

theorem Stage.InOrder.continues {s : Stage} (h : s.InOrder log) (hl : Continues log log') :
    s.InOrder log' :=
  ⟨hl.consistent h.consistent, h.known.continues hl⟩

/-! ## Parts of an interaction -/

namespace Transcript

variable {c : Context} {format : ArchiveFormat} {fs : FileSystem} {s s' : State}

/-- Once a place has been granted, the archive is transferred to it. -/
theorem granted_known (snapshot : Snapshot) (slot : UploadSlot) (hlog : Consistent log)
    (hc : InConversation log c.conversationId) (result : Except Service.Error Unit) :
    Consistent (.call (transfer slot snapshot) result ::
        .call (slotRequest c snapshot) (.ok slot) :: log) ∧
      InConversation (.call (transfer slot snapshot) result ::
        .call (slotRequest c snapshot) (.ok slot) :: log) c.conversationId := by
  have hlog₁ : Consistent (.call (slotRequest c snapshot) (.ok slot) :: log) := hlog.call hc
  have hc₁ : InConversation (.call (slotRequest c snapshot) (.ok slot) :: log)
      c.conversationId := hc
  have h₂ : Continues _ (.call (transfer slot snapshot) result :: _) := .call ⟨_, hc₁⟩ rfl rfl
  exact ⟨h₂.consistent hlog₁, h₂.inConversation _ hc₁⟩

theorem Upload.known {res : Except Error String} (h : Upload format c fs t res)
    (hlog : Consistent log)
    (hc : InConversation log c.conversationId) :
    Consistent (t.reverse ++ log) ∧ InConversation (t.reverse ++ log) c.conversationId ∧
      ∀ id, res = .ok id → (c.withUploadId id).Ready (t.reverse ++ log) := by
  cases h with
  | unreadable => exact ⟨hlog, hc, nofun⟩
  | @refused snapshot e =>
      have h₁ : Continues log (.call (slotRequest c snapshot) (.error e) :: log) :=
        .call hc rfl rfl
      exact ⟨h₁.consistent hlog, h₁.inConversation _ hc, nofun⟩
  | @broken snapshot slot e =>
      obtain ⟨hlog', hc'⟩ := granted_known snapshot slot hlog hc (.error e)
      exact ⟨hlog', hc', nofun⟩
  | @done snapshot slot =>
      -- The place is the latest one, and nothing but the transfer is newer.
      obtain ⟨hlog', hc'⟩ := granted_known snapshot slot hlog hc (.ok ())
      refine ⟨hlog', hc', ?_⟩
      rintro _ ⟨⟩
      refine ⟨hc', slot.id, rfl, [.call (transfer slot snapshot) (.ok ())], c.conversationId,
        snapshot.checksum, slot, log, snapshot.archive, rfl, ?_, rfl, ?_⟩
      · simp [LogEntry.slot?]
      · exact List.mem_singleton_self _

theorem Plan.continues {message : String} {res : Except Error String} (h : Plan c message t res)
    (hc : c.Ready log) : Continues log (t.reverse ++ log) := by
  cases h with
  | noUpload => exact .refl log
  | refused hid | done hid => exact .call ⟨hc.inConversation, hc.uploaded_of hid⟩ rfl rfl

theorem Poll.continues {pauseMs n : Nat} {job : Job} {res : Except Error JobResult}
    (h : Poll pauseMs job n t res) (hc : InConversation log job.conversationId)
    (hj : log.findSome? LogEntry.job? = some job.id) : Continues log (t.reverse ++ log) := by
  have asked : ∀ {log}, InConversation log job.conversationId →
      log.findSome? LogEntry.job? = some job.id → ∀ result, Continues log
        (.call (.getCodeGeneration job.conversationId job.id) result :: log) :=
    fun hc hj _ => .call ⟨hc, hj⟩ rfl rfl
  -- Each question goes to the log before the next one, so the log is not fixed.
  induction h generalizing log with
  | cancelled | timeout => exact .refl log
  | refused | failed | unknown => exact asked hc hj _
  | @pending n text t res _ _ ih =>
      have h₁ := (asked hc hj (.ok text)).trans (.waited pauseMs)
      simpa using h₁.trans (ih (h₁.inConversation _ hc) hj)
  | @lost n text | @complete n text =>
      have h₁ := asked hc hj (.ok text)
      exact h₁.trans (.call (h₁.inConversation _ hc) rfl rfl)

/-- A job that is started first is the latest one while it is waited for. -/
theorem Poll.continues_of_start {pauseMs n : Nat} {id uploadId : String} {token : Token}
    {res : Except Error JobResult}
    (h : Poll pauseMs ⟨id, c.conversationId, uploadId, token⟩ n t res) (tabId : String)
    (message : Option String) (hc : InConversation log c.conversationId)
    (hu : Uploaded log uploadId) :
    Continues log ((.call (.startCodeGeneration c.conversationId uploadId message) (.ok id) ::
      jobShown tabId :: t).reverse ++ log) := by
  have h₁ : Continues log
      (.call (.startCodeGeneration c.conversationId uploadId message) (.ok id) :: log) :=
    .call ⟨hc, hu⟩ rfl rfl
  have h₂ : Continues log (jobShown tabId ::
      .call (.startCodeGeneration c.conversationId uploadId message) (.ok id) :: log) :=
    h₁.trans (.event _)
  simpa using h₂.trans (h.continues (h₂.inConversation _ hc) rfl)

theorem changesShown_continues {tabId uploadId : String} {changes : Changes} :
    Continues log ((changesShown tabId uploadId changes).reverse ++ log) := by
  have h₁ : Continues log
      (.event (.ofStaged changes.files changes.deleted tabId uploadId) :: log) := .event _
  exact h₁.trans (.event _)

theorem Generation.continues {message : Option String} {res : Except Error Changes}
    (h : Generation s c message t res) (hc : c.Ready log) : Continues log (t.reverse ++ log) := by
  match h with
  | .noUpload _ => exact .refl log
  | .refused hid => exact .call ⟨hc.inConversation, hc.uploaded_of hid⟩ rfl rfl
  | .failed hid poll | .cancelled hid poll =>
      exact poll.continues_of_start s.tabId message hc.inConversation (hc.uploaded_of hid)
  | .complete hid poll =>
      have h₁ := poll.continues_of_start s.tabId message hc.inConversation (hc.uploaded_of hid)
      simpa using h₁.trans changesShown_continues

/-! ## What each state does -/

variable {message : Option String} {iteration : UInt32} {files : List StagedFile}

/-- A context that was ready still is, and the state that takes over goes on with it. -/
structure Carried (c : Context) (log : List LogEntry) (res : Except Error Outcome) : Prop where
  consistent : Consistent log
  ready : c.Ready log
  next : ∀ outcome, res = .ok outcome → outcome.next.stage.context? = some c

theorem Carried.inOrder {res : Except Error Outcome} (h : Carried c log res) :
    ∀ outcome, res = .ok outcome → outcome.next.stage.InOrder log :=
  fun outcome ho => ⟨h.consistent, h.ready.known (h.next outcome ho)⟩

theorem Draft.carried {res : Except Error Outcome} (h : Draft s c iteration message t s' res)
    (hlog : Consistent log) (hc : c.Ready log) : Carried c (t.reverse ++ log) res := by
  have hl : Continues log (t.reverse ++ log) := by
    match h with
    | .noMessage _ => exact .refl log
    | .failed _ plan => exact plan.continues hc
    | .done _ _ plan => simpa [planShown] using (plan.continues hc).trans (.event _)
  refine ⟨hl.consistent hlog, hc.continues hl, ?_⟩
  rintro outcome rfl
  rw [h.next.1]
  rfl

theorem Round.carried {keep : Changes → Stage} {res : Except Error Outcome}
    (h : Round s c iteration message keep t files s' res) (hlog : Consistent log)
    (hc : c.Ready log) : Carried c (t.reverse ++ log) res := by
  have hl : Continues log (t.reverse ++ log) := by
    match h with
    | .failed generation | .done _ generation => exact generation.continues hc
  refine ⟨hl.consistent hlog, hc.continues hl, ?_⟩
  rintro outcome rfl
  obtain ⟨changes, hn, _⟩ := h.next
  rw [hn]
  rfl

theorem Regeneration.carried {res : Except Error Outcome}
    (h : Regeneration s c iteration message t files s' res) (hlog : Consistent log)
    (hc : c.Ready log) : Carried c (t.reverse ++ log) res := by
  match h with
  | .noMessage _ => exact ⟨hlog, hc, by rintro _ ⟨⟩⟩
  | .sent _ round => exact round.carried hlog hc

theorem Mock.carried {uploadId : String} {outcome : Outcome}
    (h : Mock fs s c uploadId t files s' outcome) (hlog : Consistent log) (hc : c.Ready log) :
    Carried c (t.reverse ++ log) (.ok outcome) := by
  have hl : Continues log (t.reverse ++ log) := by
    match h with
    | .unreadable _ _ => exact .refl log
    | .shown _ _ _ => exact changesShown_continues
  refine ⟨hl.consistent hlog, hc.continues hl, ?_⟩
  rintro _ ⟨⟩
  rw [h.next.1]
  rfl

theorem Interaction.inOrder {res : Except Error Outcome}
    (h : Interaction format fs s message t files s' res) (hs : s.stage.InOrder log) :
    s.stage.InOrder (t.reverse ++ log) ∧
      ∀ outcome, res = .ok outcome → outcome.next.stage.InOrder (t.reverse ++ log) := by
  obtain ⟨hlog, hk⟩ := hs
  match h with
  | .tooEarly _ | .noTask _ _ | .noFeedback _ _ => exact ⟨⟨hlog, hk⟩, by rintro _ ⟨⟩⟩
  | .noUpload hst _ upload | .noReupload hst _ upload =>
      rw [hst] at hk ⊢
      obtain ⟨hlog', hc, _⟩ := upload.known hlog hk
      exact ⟨⟨hlog', hc⟩, by rintro _ ⟨⟩⟩
  | .begun hst upload draft =>
      rw [hst] at hk ⊢
      obtain ⟨hlog', _, hc⟩ := upload.known hlog hk
      have hd := draft.carried hlog' (hc _ rfl)
      rw [List.reverse_append, List.append_assoc]
      exact ⟨⟨hd.consistent, hd.ready.inConversation⟩, hd.inOrder⟩
  | .reworked hst upload regeneration =>
      rw [hst] at hk ⊢
      obtain ⟨hlog', _, hc⟩ := upload.known hlog hk
      have hr := regeneration.carried hlog' (hc _ rfl)
      rw [List.reverse_append, List.append_assoc]
      exact ⟨⟨hr.consistent, hr.ready.inConversation⟩, hr.inOrder⟩
  | .drafted hst draft | .revised hst _ draft =>
      rw [hst] at hk ⊢
      have hd := draft.carried hlog hk
      exact ⟨⟨hd.consistent, hd.ready⟩, hd.inOrder⟩
  | .diverted hst _ mock | .mocked hst mock =>
      rw [hst] at hk ⊢
      have hm := mock.carried hlog hk
      exact ⟨⟨hm.consistent, hm.ready⟩, hm.inOrder⟩
  | .generated hst round =>
      rw [hst] at hk ⊢
      have hr := round.carried hlog hk
      exact ⟨⟨hr.consistent, hr.ready⟩, hr.inOrder⟩
  | .regenerated hst regeneration =>
      rw [hst] at hk ⊢
      have hr := regeneration.carried hlog hk
      exact ⟨⟨hr.consistent, hr.ready⟩, hr.inOrder⟩

/-! ## What a session does -/

variable {tokens : Tokens} {x x' : Session}

theorem Forward.inOrder {res : Except Error (Option String)}
    (h : Forward format fs tokens x message t files x' res) (hs : x.state.stage.InOrder log) :
    x'.state.stage.InOrder (t.reverse ++ log) := by
  have hs₁ := hs.continues (.event (.progress x.tabId true none))
  rcases h.outcome with ⟨token, e, u, rfl, -, -, -, interaction, rfl⟩ |
    ⟨s', outcome, u, rfl, -, interaction, rfl⟩
  all_goals
    simp only [List.reverse_cons, List.reverse_append, List.append_assoc, List.reverse_nil,
      List.nil_append, List.singleton_append]
  · exact (interaction.inOrder hs₁).1.continues (.event _)
  · exact ((interaction.inOrder hs₁).2 _ rfl).continues (.event _)

theorem Acceptance.inOrder {res : Except Error Unit} (h : Acceptance x x' res)
    (hs : x.state.stage.InOrder log) : x'.state.stage.InOrder log := by
  cases h with
  | before | noUpload | tooEarly | noPlan => exact hs
  | now _ hst _ =>
      rw [hst] at hs
      exact ⟨hs.consistent, hs.known⟩

theorem Step.inOrder {m : Move} {res : Except Error Reply}
    (h : Step format fs tokens x m t files x' res)
    (hs : x.state.stage.InOrder log) : x'.state.stage.InOrder (t.reverse ++ log) := by
  cases h with
  | startedBefore | notWritten | cancelled | edited => exact hs
  | notStarted hst =>
      have hu := hs.known
      rw [hst] at hu
      exact hs.continues (.call hu rfl rfl)
  | @started message id _ hst =>
      have hu := hs.known
      rw [hst] at hu
      have hc : InConversation (.call .createConversation (.ok id) :: log) id := by
        simp [InConversation, LogEntry.conversation?, hu.1]
      exact ⟨hs.consistent.call hu, hc⟩
  | sent forward | retried forward => exact forward.inOrder hs
  | accepted acceptance | notAccepted acceptance => exact acceptance.inOrder hs
  | @generated x₁ _ u _ _ acceptance forward =>
      have hs₁ := ((acceptance.inOrder hs).continues (.event (.chatInputEnabled x₁.tabId false)))
      have hs₂ := forward.inOrder
        (hs₁.continues (.event (.updatePlaceholder x₁.tabId writingPlaceholder)))
      have hs₃ := hs₂.continues (.event (.chatInputEnabled x₁.tabId true))
      simpa using hs₃.continues (.event (.updatePlaceholder x₁.tabId feedbackPlaceholder))
  | written | handled => exact hs.continues (.event _)

end Transcript

/-! ## Runs -/

theorem run_inOrder (env : Environment σ) (settings : Settings) (root : Workspace.Path)
    (tabId : String) (outside : σ) (files : FileSystem) (moves : List Move) :
    let r := run env (Session.new settings root tabId outside files) moves
    r.session.state.stage.InOrder r.world.log := by
  have start : Stage.InOrder .notStarted [] := ⟨.nil, rfl, nofun⟩
  refine run_induction (P := fun r => r.session.state.stage.InOrder r.world.log) env start ?_ moves
  rintro ⟨x, w⟩ m hs
  obtain ⟨t, staged, x', res, w', hrun, step, hl, -⟩ := perform_spec env m x w
  rw [hrun, hl]
  exact step.inOrder hs

theorem Stage.Known.length_le_one {s : Stage} (h : s.Known log) :
    (log.filterMap LogEntry.conversation?).length ≤ 1 := by
  cases s with
  | notStarted =>
      rw [h.1]
      exact Nat.zero_le 1
  | awaitingTask | reviewing => exact Nat.le_of_eq (congrArg List.length h)
  | drafting | revising | generating | mocking | regenerating =>
      exact Nat.le_of_eq (congrArg List.length (Context.Ready.inConversation h))

/-- In every run at most one conversation is started, and every call has the ids that follow from
what happened before. -/
theorem run_consistent (env : Environment σ) (settings : Settings) (root : Workspace.Path)
    (tabId : String) (outside : σ) (files : FileSystem) (moves : List Move) :
    let log := (run env (Session.new settings root tabId outside files) moves).world.log
    Consistent log ∧ (log.filterMap LogEntry.conversation?).length ≤ 1 := by
  have hs := run_inOrder env settings root tabId outside files moves
  exact ⟨hs.consistent, hs.known.length_le_one⟩

end Codewright.Session
