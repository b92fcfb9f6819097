import Codewright.Proofs.Markup.Plain
import Codewright.Proofs.Session.Reachable
import Codewright.Proofs.Session.Snapshot

/-!
# Plain text in the chat

Plans come from the service, and so do the texts of errors. Whatever they hold, what the user is
shown has no angle brackets: a plan is rid of its markup before it becomes the approach, and the
text of an error of the service is replaced.
-/

namespace Codewright.Session

open Markup
open Staging (StagedFile)
open Transcript
open Workspace (ArchiveFormat FileSystem)

variable {σ : Type}

/-- The text that the user is shown in an answer or as an error. -/
def LogEntry.text? : LogEntry → Option String
  | .event (.answer a) => a.message
  | .event (.errorMessage message _ _ _) => some message
  | _ => none

/-- All texts that the user is shown are plain. -/
def PlainTexts (log : List LogEntry) : Prop :=
  ∀ text ∈ log.filterMap LogEntry.text?, Plain text

namespace PlainTexts

variable {log log' : List LogEntry}

theorem of_eq_nil (h : log.filterMap LogEntry.text? = []) : PlainTexts log := by
  rw [PlainTexts, h]
  exact nofun

theorem nil : PlainTexts [] := of_eq_nil rfl

theorem append (h : PlainTexts log) (h' : PlainTexts log') : PlainTexts (log ++ log') := by
  intro text ht
  rw [List.filterMap_append] at ht
  exact (List.mem_append.mp ht).elim (h text) (h' text)

theorem reverse (h : PlainTexts log) : PlainTexts log.reverse := by
  intro text ht
  rw [List.filterMap_reverse] at ht
  exact h text (List.mem_reverse.mp ht)

theorem singleton {e : LogEntry} {text : String} (he : e.text? = some text) (h : Plain text) :
    PlainTexts [e] := by
  intro text' ht
  rw [List.filterMap_cons_some he] at ht
  obtain rfl := List.mem_singleton.mp ht
  exact h

end PlainTexts

/-! ## Texts -/

theorem plain_approachOfPlan (plan : Option String) : Plain (approachOfPlan plan) := by
  cases plan with
  | none => exact plain_sanitize _
  | some p => exact plain_sanitize _

theorem plain_contentLength (size limit : Nat) :
    Plain (Error.contentLength size limit).message := by
  change Plain (_ ++ (_ ++ toString size ++ _ ++ toString limit ++ _))
  simp only [plain_append]
  exact ⟨plain_ofList.mpr (by decide), ⟨⟨⟨plain_ofList.mpr (by decide), plain_toString size⟩,
    plain_ofList.mpr (by decide)⟩, plain_toString limit⟩, plain_ofList.mpr (by decide)⟩

/-- A text that is meant for the user has nothing in it from outside but numbers. -/
theorem plain_message {e : Error} (h : e.isUserFacing = true) : Plain e.message := by
  cases e with
  | userMessageNotFound | illegalStateTransition | prepareRepoFailed =>
      exact plain_ofList.mpr (by decide)
  | uploadCode =>
      exact plain_append.mpr ⟨plain_ofList.mpr (by decide), plain_ofList.mpr (by decide)⟩
  | contentLength size limit => exact plain_contentLength size limit
  | conversationIdNotFound | uploadIdNotFound | serverSide | codeGenFailed | unknownCodeGenStatus
  | codeGenTimeout | workspaceWrite => cases h

theorem plain_apology (phase : Phase) : Plain (Error.apology phase) := by
  cases phase with
  | init | codegen => exact plain_ofList.mpr (by decide)
  | approach =>
      exact plain_append.mpr ⟨plain_ofList.mpr (by decide), plain_ofList.mpr (by decide)⟩

theorem plain_retriesExhausted : Plain Error.retriesExhausted :=
  plain_append.mpr ⟨plain_ofList.mpr (by decide), plain_ofList.mpr (by decide)⟩

theorem plain_userCopy (e : Error) (phase : Phase) (retriesLeft : Nat) :
    Plain (e.userCopy phase retriesLeft) := by
  unfold Error.userCopy
  split
  · rename_i h
    exact plain_message h
  · split
    · exact plain_retriesExhausted
    · exact plain_apology phase

/-! ## Interactions -/

namespace Transcript

variable {c : Context} {format : ArchiveFormat} {fs : FileSystem} {s s' : State}
  {iteration : UInt32}
  {message : Option String} {t : List LogEntry} {files : List StagedFile}

theorem Upload.textless {res : Except Error String} (h : Upload format c fs t res) :
    t.filterMap LogEntry.text? = [] := by
  cases h with
  | unreadable | refused | broken | done => rfl

theorem Plan.textless {text : String} {res : Except Error String} (h : Plan c text t res) :
    t.filterMap LogEntry.text? = [] := by
  cases h with
  | noUpload | refused | done => rfl

theorem Plan.plain {text approach : String} (h : Plan c text t (.ok approach)) :
    Plain approach := by
  cases h with
  | done => exact plain_approachOfPlan _

theorem Poll.textless {pauseMs n : Nat} {job : Job} {res : Except Error JobResult}
    (h : Poll pauseMs job n t res) : t.filterMap LogEntry.text? = [] := by
  induction h with
  | pending _ _ ih => exact ih
  | cancelled | timeout | refused | failed | unknown | lost | complete => rfl

theorem plainTexts_jobShown (tabId : String) : PlainTexts [jobShown tabId] :=
  .singleton rfl (plain_ofList.mpr (by decide))

theorem Generation.plainTexts {res : Except Error Changes} (h : Generation s c message t res) :
    PlainTexts t := by
  match h with
  | .noUpload _ | .refused _ => exact .of_eq_nil rfl
  | .failed _ poll | .cancelled _ poll =>
      exact (plainTexts_jobShown s.tabId).append (.of_eq_nil poll.textless)
  | .complete _ poll =>
      refine (plainTexts_jobShown s.tabId).append (.append (.of_eq_nil poll.textless) ?_)
      exact .of_eq_nil rfl

/-- What is shown is plain, and so is what the states go on with if the approach was. -/
structure KeepsPlain (s s' : State) (t : List LogEntry) (res : Except Error Outcome) : Prop where
  texts : PlainTexts t
  approach : Plain s.approach → Plain s'.approach
  next : ∀ outcome, res = .ok outcome → Plain s.approach → Plain outcome.next.approach
  content : ∀ outcome text, res = .ok outcome → outcome.content = some text → Plain text

theorem KeepsPlain.of_error {e : Error} (h : PlainTexts t) : KeepsPlain s s t (.error e) :=
  ⟨h, id, nofun, nofun⟩

/-- A state without words for the user hands the approach on. -/
theorem KeepsPlain.of_approach_eq {next : State} (h : PlainTexts t)
    (hs : s'.approach = s.approach) (hn : next.approach = s.approach) :
    KeepsPlain s s' t (.ok ⟨next, none⟩) := by
  refine ⟨h, by rw [hs]; exact id, ?_, ?_⟩
  · rintro _ ⟨⟩
    rw [hn]
    exact id
  · rintro _ _ ⟨⟩ ⟨⟩

theorem Draft.keepsPlain {res : Except Error Outcome} (h : Draft s c iteration message t s' res) :
    KeepsPlain s s' t res := by
  match h with
  | .noMessage _ => exact .of_error .nil
  | .failed _ plan => exact .of_error (.of_eq_nil plan.textless)
  | .done _ _ plan =>
      refine ⟨(PlainTexts.of_eq_nil plan.textless).append (.singleton rfl plan.plain),
        fun _ => plan.plain, ?_, ?_⟩
      · rintro _ ⟨⟩ _
        exact plan.plain
      · rintro _ _ ⟨⟩ ⟨⟩
        exact plain_append.mpr ⟨plan.plain, by decide⟩

theorem Round.keepsPlain {keep : Changes → Stage} {res : Except Error Outcome}
    (h : Round s c iteration message keep t files s' res) : KeepsPlain s s' t res := by
  match h with
  | .failed generation => exact .of_error generation.plainTexts
  | .done _ generation => exact .of_approach_eq generation.plainTexts rfl rfl

theorem Regeneration.keepsPlain {res : Except Error Outcome}
    (h : Regeneration s c iteration message t files s' res) : KeepsPlain s s' t res := by
  match h with
  | .noMessage _ => exact .of_error .nil
  | .sent _ round => exact round.keepsPlain

theorem Mock.keepsPlain {uploadId : String} {outcome : Outcome}
    (h : Mock fs s c uploadId t files s' outcome) : KeepsPlain s s' t (.ok outcome) := by
  match h with
  | .unreadable _ _ => exact .of_approach_eq .nil rfl rfl
  | .shown _ _ _ => exact .of_approach_eq (.of_eq_nil rfl) rfl rfl

/-- A state that has another one with the same approach do its work stays as it is. -/
theorem KeepsPlain.delegated {s₁ s₁' : State} {u : List LogEntry} {res : Except Error Outcome}
    (h : KeepsPlain s₁ s₁' u res) (hs : s₁.approach = s.approach)
    (ht : t.filterMap LogEntry.text? = []) : KeepsPlain s s (t ++ u) res :=
  ⟨(PlainTexts.of_eq_nil ht).append h.texts, id, hs ▸ h.next, h.content⟩

theorem Interaction.keepsPlain {res : Except Error Outcome}
    (h : Interaction format fs s message t files s' res) : KeepsPlain s s' t res := by
  match h with
  | .tooEarly _ | .noTask _ _ | .noFeedback _ _ => exact .of_error .nil
  | .noUpload _ _ upload | .noReupload _ _ upload => exact .of_error (.of_eq_nil upload.textless)
  | .begun _ upload draft => exact draft.keepsPlain.delegated rfl upload.textless
  | .reworked _ upload regeneration =>
      exact regeneration.keepsPlain.delegated rfl upload.textless
  | .diverted _ _ mock => exact mock.keepsPlain.delegated (t := []) rfl rfl
  | .drafted _ draft | .revised _ _ draft => exact draft.keepsPlain
  | .generated _ round => exact round.keepsPlain
  | .mocked _ mock => exact mock.keepsPlain
  | .regenerated _ regeneration => exact regeneration.keepsPlain

/-! ## Moves -/

variable {tokens : Tokens} {x x' : Session}

theorem Forward.plain {res : Except Error (Option String)}
    (h : Forward format fs tokens x message t files x' res) (hx : Plain x.state.approach) :
    PlainTexts t ∧ Plain x'.state.approach ∧ ∀ text, res = .ok (some text) → Plain text := by
  have around : ∀ {u : List LogEntry}, PlainTexts u → PlainTexts
      (.event (.progress x.tabId true none) :: (u ++ [.event (.progress x.tabId false none)])) :=
    fun hu => (PlainTexts.of_eq_nil rfl : PlainTexts [.event (.progress x.tabId true none)]).append
      (hu.append (.of_eq_nil rfl))
  rcases h.outcome with ⟨token, e, u, rfl, rfl, -, -, interaction, rfl⟩ |
    ⟨s', outcome, u, rfl, rfl, interaction, rfl⟩
  · exact ⟨around interaction.keepsPlain.texts, hx, nofun⟩
  · have hk := interaction.keepsPlain
    refine ⟨around hk.texts, hk.next _ rfl hx, fun text ht => hk.content _ text rfl ?_⟩
    exact Except.ok.inj ht

theorem Step.plain {m : Move} {res : Except Error Reply}
    (h : Step format fs tokens x m t files x' res)
    (hx : Plain x.state.approach) :
    PlainTexts t ∧ Plain x'.state.approach ∧
      ∀ text, res = .ok (.content (some text)) → Plain text := by
  cases h with
  | startedBefore | notWritten | cancelled | edited => exact ⟨.nil, hx, nofun⟩
  | notStarted => exact ⟨.of_eq_nil rfl, hx, nofun⟩
  | started => exact ⟨.of_eq_nil rfl, plain_empty, nofun⟩
  | @sent _ _ _ _ res forward | @retried _ _ _ res forward =>
      obtain ⟨ht, hx', hc⟩ := forward.plain hx
      refine ⟨ht, hx', fun text he => hc text ?_⟩
      cases res with
      | error => cases he
      | ok => exact congrArg Except.ok (Reply.content.inj (Except.ok.inj he))
  | @accepted _ res acceptance =>
      refine ⟨.nil, acceptance.approach_eq ▸ hx, fun text he => ?_⟩
      cases res with
      | error | ok => cases he
  | notAccepted acceptance => exact ⟨.nil, acceptance.approach_eq ▸ hx, nofun⟩
  | @generated x₁ _ _ _ res acceptance forward =>
      obtain ⟨ht, hx', hc⟩ := forward.plain (acceptance.approach_eq ▸ hx)
      refine ⟨?_, hx', fun text he => hc text ?_⟩
      · have opening : PlainTexts [.event (.chatInputEnabled x₁.tabId false),
            .event (.updatePlaceholder x₁.tabId writingPlaceholder)] := .of_eq_nil rfl
        exact opening.append (ht.append (.of_eq_nil rfl))
      · cases res with
        | error => cases he
        | ok => exact congrArg Except.ok (Reply.content.inj (Except.ok.inj he))
  | written => exact ⟨.singleton rfl (plain_ofList.mpr (by decide)), hx, nofun⟩
  | handled => exact ⟨.singleton rfl (plain_userCopy ..), hx, nofun⟩

end Transcript

/-! ## Runs -/

/-- What is plain in a session between two moves. -/
structure PlainRecords (r : Running σ) : Prop where
  approach : Plain r.session.state.approach
  texts : PlainTexts r.world.log

theorem PlainRecords.perform {r : Running σ} (h : PlainRecords r) (env : Environment σ)
    (m : Move) :
    PlainRecords (exec (m.perform env) r).2 ∧
      ∀ text, (exec (m.perform env) r).1 = .ok (.content (some text)) → Plain text := by
  obtain ⟨t, files, x', res, w', hrun, step, hlog, -⟩ := perform_spec env m r.session r.world
  obtain ⟨ht, hx', hc⟩ := step.plain h.approach
  rw [hrun]
  refine ⟨⟨hx', ?_⟩, hc⟩
  rw [hlog]
  exact ht.reverse.append h.texts

/-- Whatever the service, the workspace and the user put in, there is no markup in the approach, in
any text that the user has been shown, or in what a move gives back. -/
theorem run_plain (env : Environment σ) (settings : Settings) (root : Workspace.Path)
    (tabId : String) (outside : σ) (files : FileSystem) (moves : List Move) :
    let r := run env (Session.new settings root tabId outside files) moves
    Plain r.session.state.approach ∧
      (∀ text ∈ r.world.log.filterMap LogEntry.text?, Plain text) ∧
      ∀ (m : Move) text, (exec (m.perform env) r).1 = .ok (.content (some text)) → Plain text := by
  intro r
  have start : PlainRecords (Session.new settings root tabId outside files) :=
    ⟨plain_empty, .nil⟩
  have h : PlainRecords r :=
    run_induction env start (fun _ m hr => (hr.perform env m).1) moves
  exact ⟨h.approach, h.texts, fun m => (h.perform env m).2⟩

/-- A service whose plans are this text, and which does what it is asked to otherwise. -/
def planning (plan : String) : Environment Unit :=
  obliging (.ok "job") ⟨[], []⟩ plan

theorem run_plain_bold :
    let env := planning "<b>Add</b> x if a < b"
    let r := planned env
    let approach := approachOfPlan (some "<b>Add</b> x if a < b")
    (approach ∈ r.world.log.filterMap LogEntry.text? ∧ Plain approach) ∧
      (exec (Move.retry.perform env) r).1 = .ok (.content (some (approach ++ "\n"))) ∧
      Plain (approach ++ "\n") := by
  intro env r approach
  obtain ⟨-, htexts, hcontent⟩ :=
    run_plain env {} sampleRoot "tab" () sample [.preload "task", .send "message"]
  have hr : r = _ := planned_obliging
  have hshown : approach ∈ r.world.log.filterMap LogEntry.text? := by
    rw [hr]
    exact List.mem_singleton_self approach
  have hretry : (exec (Move.retry.perform env) r).1 =
      .ok (.content (some (approach ++ "\n"))) := by
    rw [hr]
    rfl
  exact ⟨⟨hshown, htexts _ hshown⟩, hretry, hcontent .retry _ hretry⟩

end Codewright.Session
