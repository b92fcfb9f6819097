import Mathlib
import Codewright.Proofs.Session.CodeResult
import Codewright.Proofs.Session.Reachable
import Codewright.Proofs.Session.Snapshot

/-!
# What can be accepted

Announced code comes with an offer to accept it. If it is that of an archive of the service, the
state that takes over holds exactly what was announced. If files of the workspace stand in for it,
they are announced all the same, but the state that takes over wants a plan and holds nothing: what
is accepted then changes nothing.
-/

namespace Codewright.Session

open Service (Export GeneratedFile)
open Staging (StagedFile)
open Transcript
open Workspace (ArchiveFormat FileSystem)

variable {σ : Type}

namespace Transcript

variable {format : ArchiveFormat} {fs : FileSystem} {c : Context} {s s' : State}
  {message : Option String}
  {iteration : UInt32} {t : List LogEntry} {files : List StagedFile} {outcome : Outcome}

/-- Without an archive there are no changes. -/
theorem Generation.eq_empty {changes : Changes} (h : Generation s c message t (.ok changes))
    (ha : t.filterMap LogEntry.archive? = []) : changes = {} := by
  cases h with
  | cancelled => rfl
  | @complete uploadId id u changes _ poll =>
      obtain ⟨archive, hp, -⟩ := poll.exported rfl
      change (u ++ changesShown s.tabId uploadId changes).filterMap _ = _ at ha
      rw [List.filterMap_append, hp] at ha
      cases ha

theorem Round.nothing_held {keep : Changes → Stage}
    (h : Round s c iteration message keep t files s' (.ok outcome))
    (ha : t.filterMap LogEntry.archive? = []) : outcome.next.stage.changes = {} := by
  cases h with
  | done _ generation => exact generation.eq_empty ha

theorem Regeneration.nothing_held
    (h : Regeneration s c iteration message t files s' (.ok outcome))
    (ha : t.filterMap LogEntry.archive? = []) : outcome.next.stage.changes = {} := by
  cases h with
  | sent _ round => exact round.nothing_held ha

/-- If the service has exported nothing, the state that takes over holds nothing. -/
theorem Interaction.nothing_held (h : Interaction format fs s message t files s' (.ok outcome))
    (ha : t.filterMap LogEntry.archive? = []) : outcome.next.stage.changes = {} := by
  cases h with
  | begun _ _ draft | drafted _ draft | revised _ _ draft =>
      rw [draft.next.1]
      rfl
  | diverted _ _ mock | mocked _ mock =>
      rw [mock.next.1]
      rfl
  | generated _ round => exact round.nothing_held ha
  | regenerated _ regeneration => exact regeneration.nothing_held ha
  | reworked _ upload regeneration =>
      rw [List.filterMap_append, upload.unannounced.2, List.nil_append] at ha
      exact regeneration.nothing_held ha

variable {tokens : Tokens} {x x' : Session}

theorem Forward.nothing_held {content : Option String}
    (h : Forward format fs tokens x message t files x' (.ok content))
    (ha : t.filterMap LogEntry.archive? = []) : x'.state.stage.changes = {} := by
  rcases h.outcome with ⟨_, _, _, _, he, _⟩ | ⟨s', outcome, u, rfl, _, interaction, rfl⟩
  · cases he
  · refine interaction.nothing_held ?_
    rw [List.filterMap_cons_none rfl, List.filterMap_append] at ha
    exact (List.append_eq_nil_iff.mp ha).1

/-- A move that announces code without an archive leaves nothing to accept. -/
theorem Step.nothing_held {m : Move} {reply : Reply} {result : CodeResult}
    (h : Step format fs tokens x m t files x' (.ok reply))
    (hc : result ∈ t.filterMap LogEntry.codeResult?)
    (ha : t.filterMap LogEntry.archive? = []) : x'.state.stage.changes = {} := by
  generalize hres : Except.ok reply = res at h
  cases h with
  | startedBefore | notStarted | started | accepted | notAccepted | notWritten | written | handled
  | cancelled | edited => simp [LogEntry.codeResult?] at hc
  | @sent _ _ _ _ res forward | @retried _ _ _ res forward =>
      cases res with
      | error => cases hres
      | ok => exact forward.nothing_held ha
  | @generated _ _ u _ res _ forward =>
      cases res with
      | error => cases hres
      | ok =>
          refine forward.nothing_held ?_
          have hu : (u ++ _).filterMap LogEntry.archive? = [] := ha
          rw [List.filterMap_append] at hu
          exact (List.append_eq_nil_iff.mp hu).1

end Transcript

/-- Accepting nothing changes nothing, and is announced like any other change. -/
theorem acceptChanges_of_empty (disk : Disk) {r : Running σ}
    (h : r.session.state.stage.changes = {}) :
    exec (acceptChanges disk) r = (.ok {},
      { r with world := { r.world with
          log := .event (.answer
            { kind := .answer, tabId := r.session.tabId, message := some acceptedNotice }) ::
            r.world.log } }) := by
  simp [acceptChanges, h]

/-- What a move announces is what can be accepted next if it comes from an archive of the service.
If it comes from files of the workspace there is nothing to accept, although accepting succeeds. -/
theorem offer_of_announcement (env : Environment σ) (m : Move) (r : Running σ) :
    let r' := (exec (m.perform env) r).2
    let held := r'.session.state.stage.changes
    ∃ t : List LogEntry, r'.world.log = t.reverse ++ r.world.log ∧
      ∀ result ∈ t.filterMap LogEntry.codeResult?,
        (∃ archive, t.filterMap LogEntry.archive? = [archive]) ∧
            held.files.map (·.path) = result.filePaths ∧ held.deleted = result.deleted ∨
          t.filterMap LogEntry.archive? = [] ∧ held = {} ∧
            ∀ disk, (exec (acceptChanges disk) r').1 = .ok {} ∧
              (exec (acceptChanges disk) r').2.world.files = r'.world.files := by
  obtain ⟨t, files, x', res, w', hrun, step, hlog, -⟩ := perform_spec env m r.session r.world
  rw [hrun]
  refine ⟨t, hlog, fun result hr => ?_⟩
  cases res with
  | error e =>
      cases step.accounted with
      | nothing hc _ =>
          rw [hc] at hr
          cases hr
  | ok reply =>
      cases step.accounted with
      | nothing hc _ =>
          rw [hc] at hr
          cases hr
      | @generated _ uploadId archive hc ha hf hchanges =>
          rw [hc] at hr
          obtain rfl := List.mem_singleton.mp hr
          refine .inl ⟨⟨archive, ha⟩, ?_, ?_⟩
          · rw [hchanges, hf, List.map_map]
            rfl
          · rw [hchanges]
      | mocked _ ha =>
          have hheld := step.nothing_held hr ha
          refine .inr ⟨ha, hheld, fun disk => ?_⟩
          rw [acceptChanges_of_empty disk hheld]
          exact ⟨rfl, rfl⟩

/-- A service that generates one file and deletes another. -/
def generous : Environment Unit :=
  obliging (.ok "job") ⟨[⟨"/a", "x"⟩], ["b"]⟩

theorem offer_of_announcement_exported :
    let r' := (exec (Move.generateCode.perform generous) (planned generous)).2
    r'.world.log.filterMap LogEntry.codeResult? = [⟨["/a"], ["b"], "place"⟩] ∧
      r'.session.state.stage.changes.files.map (·.path) = ["/a"] ∧
      r'.session.state.stage.changes.deleted = ["b"] := by
  intro r'
  have hplan : planned generous = _ := planned_obliging
  have hnew : r'.world.log.filterMap LogEntry.codeResult? = [⟨["/a"], ["b"], "place"⟩] := by
    simp only [r', hplan]
    rfl
  have hold : (planned generous).world.log.filterMap LogEntry.codeResult? = [] := by
    rw [hplan]
    rfl
  obtain ⟨t, hlog, h⟩ := offer_of_announcement generous .generateCode (planned generous)
  have ht : t.filterMap LogEntry.codeResult? = [⟨["/a"], ["b"], "place"⟩] := by
    rw [hlog, List.filterMap_append, hold, List.append_nil, List.filterMap_reverse] at hnew
    exact List.reverse_inj.mp hnew
  have hr : (⟨["/a"], ["b"], "place"⟩ : CodeResult) ∈ t.filterMap LogEntry.codeResult? := by
    rw [ht]
    exact List.mem_singleton_self _
  rcases h _ hr with ⟨-, hpaths, hdeleted⟩ | ⟨-, hheld, -⟩
  · exact ⟨hnew, hpaths, hdeleted⟩
  · have hdeleted : r'.session.state.stage.changes.deleted = ["b"] := by
      simp only [r', hplan]
      rfl
    rw [hheld] at hdeleted
    cases hdeleted

/-! ## Files of the workspace -/

/-- If files of the workspace stand in for generated ones they are announced, and the state that
takes over wants a plan. -/
theorem Transcript.Interaction.diverted_shown {format : ArchiveFormat} {fs : FileSystem}
    {s s' : State} {c : Context}
    {iteration : UInt32} {message : Option String} {t : List LogEntry} {files : List StagedFile}
    {res : Except Error Outcome} {round : List GeneratedFile}
    (h : Interaction format fs s message t files s' res) (hs : s.stage = .revising c iteration)
    (hm : State.wantsMock message = true) (hf : mockFiles fs c.root = .ok round) :
    ∃ uploadId outcome, res = .ok outcome ∧ outcome.next.stage = .drafting c 0 ∧
      t = changesShown s.tabId uploadId ⟨round.map (StagedFile.ofGenerated uploadId), []⟩ := by
  obtain ⟨uploadId, _, _, outcome, rfl, mock⟩ := h.mock hs hm
  cases mock with
  | unreadable _ he => cases he.symm.trans hf
  | shown _ hf' hfiles =>
      obtain rfl := Except.ok.inj (hf.symm.trans hf')
      exact ⟨_, _, rfl, rfl, by rw [hfiles]⟩

/-- A session that announces files of the workspace has nothing to accept. -/
theorem nothing_held_of_diverted (env : Environment σ) (message : String) (r : Running σ)
    {c : Context} {iteration : UInt32} {round : List GeneratedFile}
    (hs : r.session.state.stage = .revising c iteration)
    (hm : State.wantsMock (some message) = true) (hf : mockFiles r.world.files c.root = .ok round) :
    let r' := (exec ((Move.send message).perform env) r).2
    (∃ uploadId, r'.world.log.filterMap LogEntry.codeResult? =
        ⟨round.map (·.path), [], uploadId⟩ :: r.world.log.filterMap LogEntry.codeResult?) ∧
      r'.session.state.stage.changes = {} := by
  obtain ⟨t, files, x', res, w', hrun, step, hlog, -⟩ :=
    perform_spec env (.send message) r.session r.world
  rw [hrun]
  cases step with
  | sent forward =>
      rcases forward.outcome with ⟨_, _, _, _, _, _, _, interaction, _⟩ |
        ⟨s', outcome, u, rfl, _, interaction, rfl⟩
      · obtain ⟨_, _, he, _⟩ := interaction.diverted_shown hs hm hf
        cases he
      · obtain ⟨uploadId, _, ho, hnext, rfl⟩ := interaction.diverted_shown hs hm hf
        obtain rfl := Except.ok.inj ho
        refine ⟨⟨uploadId, ?_⟩, ?_⟩
        · rw [hlog, List.filterMap_append, List.filterMap_reverse, List.filterMap_cons_none rfl,
            List.filterMap_append, codeResult?_changesShown]
          rfl
        · rw [hnext]
          rfl

/-- A workspace with one file to stand in for generated ones. -/
def standIn : FileSystem :=
  .ofList [] [([[0x77]], .dir), ([[0x77], Text.bytes mockDirectory], .dir),
    ([[0x77], Text.bytes mockDirectory, [0x61]], .file "x".toUTF8)]

/-- Announced code cannot always be accepted: the file of the workspace that was announced is not
among the changes that the session holds. -/
theorem announced_not_held :
    let r := run generous (Session.new {} sampleRoot "tab" () sample)
      [.preload "task", .send "message", .edit standIn, .send "MOCK CODE"]
    (∃ uploadId, r.world.log.filterMap LogEntry.codeResult? = [⟨["a"], [], uploadId⟩]) ∧
      r.session.state.stage.changes = {} := by
  have hf : mockFiles standIn sampleRoot = .ok [⟨"a", "x"⟩] := by cbv
  have hm : State.wantsMock (some "MOCK CODE") = true := by decide +kernel
  have hplan : planned generous = _ := planned_obliging
  have hstage : (exec ((Move.edit standIn).perform generous)
      (planned generous)).2.session.state.stage =
        .revising (sampleContext.withUploadId "place") 1 := by
    rw [hplan]
    rfl
  have h := nothing_held_of_diverted generous "MOCK CODE" _ hstage hm (by rw [hplan]; exact hf)
  have hold : (exec ((Move.edit standIn).perform generous) (planned generous)).2.world.log.filterMap
      LogEntry.codeResult? = [] := by
    rw [hplan]
    rfl
  rw [hold] at h
  exact h

end Codewright.Session
