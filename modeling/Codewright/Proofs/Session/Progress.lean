import Codewright.Proofs.Session.Entries
import Codewright.Proofs.Session.Succession

/-!
# Signals to the chat window

While a state handles a message, the chat window shows that something is in progress, and while code
is generated for a plan nothing can be typed. What a move switches it has switched back at its end,
whatever comes of it.
-/

namespace Codewright

/-- The tab in which an event is shown. -/
def Chat.Event.tabId : Chat.Event → String
  | answer a => a.tabId
  | errorMessage _ tabId _ _ | codeResult _ _ tabId _ | progress tabId _ _
  | updatePlaceholder tabId _ | chatInputEnabled tabId _ => tabId

namespace Session

open Staging (StagedFile)
open Transcript
open Workspace (ArchiveFormat FileSystem Path)

variable {σ : Type}

/-! ## Signals -/

/-- Whether something is in progress, as an entry tells the user. -/
def LogEntry.progress? : LogEntry → Option Bool
  | .event (.progress _ inProgress _) => some inProgress
  | _ => none

/-- Whether something can be typed, as an entry tells the chat window. -/
def LogEntry.chatInput? : LogEntry → Option Bool
  | .event (.chatInputEnabled _ enabled) => some enabled
  | _ => none

/-- Whether an entry tells the user about an error. -/
def LogEntry.isErrorMessage : LogEntry → Bool
  | .event (.errorMessage _ _ _ _) => true
  | _ => false

/-- What entries signal, all of it in one tab: what is in progress, whether something can be typed,
and how many errors there have been. -/
structure Signals (tabId : String) (progress chatInput : List Bool) (errors : Nat)
    (t : List LogEntry) : Prop where
  progress : t.filterMap LogEntry.progress? = progress
  chatInput : t.filterMap LogEntry.chatInput? = chatInput
  errors : t.countP LogEntry.isErrorMessage = errors
  tabId : ∀ e ∈ t.filterMap LogEntry.event?, e.tabId = tabId

namespace Signals

variable {tabId : String} {p q i j : List Bool} {n k : Nat} {t u : List LogEntry}

theorem nil : Signals tabId [] [] 0 [] :=
  ⟨rfl, rfl, rfl, nofun⟩

theorem append (h : Signals tabId p i n t) (h' : Signals tabId q j k u) :
    Signals tabId (p ++ q) (i ++ j) (n + k) (t ++ u) where
  progress := by rw [List.filterMap_append, h.progress, h'.progress]
  chatInput := by rw [List.filterMap_append, h.chatInput, h'.chatInput]
  errors := by rw [List.countP_append, h.errors, h'.errors]
  tabId e he := by
    rw [List.filterMap_append] at he
    exact (List.mem_append.mp he).elim (h.tabId e) (h'.tabId e)

theorem silent {e : LogEntry} (hp : e.progress? = none) (hi : e.chatInput? = none)
    (hn : e.isErrorMessage = false) (ht : ∀ ev, e.event? = some ev → ev.tabId = tabId) :
    Signals tabId [] [] 0 [e] where
  progress := List.filterMap_cons_none hp
  chatInput := List.filterMap_cons_none hi
  errors := List.countP_eq_zero.mpr (by simp [hn])
  tabId ev hev := by
    obtain ⟨e', he', hev⟩ := List.mem_filterMap.mp hev
    exact ht ev (List.mem_singleton.mp he' ▸ hev)

theorem of_call (c : Service.Call) (result : Except Service.Error c.Answer) :
    Signals tabId [] [] 0 [.call c result] :=
  silent rfl rfl rfl nofun

/-- A state signals nothing. -/
theorem of_inner (h : t.all (LogEntry.isInner tabId) = true) : Signals tabId [] [] 0 t := by
  induction t with
  | nil => exact nil
  | cons e t ih =>
      rw [List.all_cons, Bool.and_eq_true] at h
      obtain ⟨he, ht⟩ := h
      suffices hentry : Signals tabId [] [] 0 [e] from hentry.append (ih ht)
      match e with
      | .call c result => exact of_call c result
      | .waited _ => exact silent rfl rfl rfl nofun
      | .event (.answer a) =>
          exact silent rfl rfl rfl fun _ hev => Option.some.inj hev ▸ of_decide_eq_true he
      | .event (.codeResult _ _ id _) =>
          exact silent rfl rfl rfl fun _ hev => Option.some.inj hev ▸ of_decide_eq_true he
      | .event (.progress _ _ _) | .event (.errorMessage _ _ _ _)
      | .event (.updatePlaceholder _ _) | .event (.chatInputEnabled _ _) => cases he

theorem of_event (e : Chat.Event) (p i : List Bool) (n : Nat)
    (hp : [LogEntry.event e].filterMap LogEntry.progress? = p)
    (hi : [LogEntry.event e].filterMap LogEntry.chatInput? = i)
    (hn : [LogEntry.event e].countP LogEntry.isErrorMessage = n) :
    Signals e.tabId p i n [.event e] :=
  ⟨hp, hi, hn, fun _ he => congrArg _ (List.mem_singleton.mp he)⟩

end Signals

/-- What is signalled from `w` to `w'`. -/
def World.Shows (tabId : String) (progress chatInput : List Bool) (errors : Nat)
    (w w' : World σ) : Prop :=
  ∃ t, w'.log = t.reverse ++ w.log ∧ Signals tabId progress chatInput errors t

theorem World.Shows.trans {tabId : String} {p q i j : List Bool} {n k : Nat} {w w₁ w₂ : World σ}
    (h : w.Shows tabId p i n w₁) (h₁ : w₁.Shows tabId q j k w₂) :
    w.Shows tabId (p ++ q) (i ++ j) (n + k) w₂ := by
  obtain ⟨t, hlog, ht⟩ := h
  obtain ⟨u, hlog₁, hu⟩ := h₁
  refine ⟨t ++ u, ?_, ht.append hu⟩
  rw [hlog₁, hlog, List.reverse_append, List.append_assoc]

/-! ## Messages -/

theorem Transcript.Forward.signals {format : ArchiveFormat} {fs : FileSystem} {tokens : Tokens}
    {x x' : Session}
    {message : Option String} {t : List LogEntry} {files : List StagedFile}
    {res : Except Error (Option String)} (h : Forward format fs tokens x message t files x' res)
    (hx : x.state.tabId = x.tabId) : Signals x.tabId [true, false] [] 0 t := by
  have around : ∀ {u : List LogEntry}, u.all (LogEntry.isInner x.state.tabId) = true →
      Signals x.tabId [true, false] [] 0 (.event (.progress x.tabId true none) ::
        (u ++ [.event (.progress x.tabId false none)])) := by
    intro u hu
    rw [hx] at hu
    have hbegin := Signals.of_event (.progress x.tabId true none) [true] [] 0 rfl rfl rfl
    have hend := Signals.of_event (.progress x.tabId false none) [false] [] 0 rfl rfl rfl
    exact hbegin.append ((Signals.of_inner hu).append hend)
  cases h with
  | failed interaction => exact around interaction.inner
  | done interaction => exact around interaction.inner

theorem forward_shows (env : Environment σ) {x₀ x : Session} (hx : x.tabId = x₀.tabId)
    (hstate : x.state.tabId = x₀.tabId) (message : Option String) (w : World σ) :
    w.Shows x₀.tabId [true, false] [] 0 (exec (forward env message) ⟨x, w⟩).2.world := by
  obtain ⟨t, files, x', res, w', h, forward, f⟩ := forward_spec env message x w
  rw [h, ← hx]
  exact ⟨t, f.log, forward.signals (hstate.trans hx.symm)⟩

/-! ## Moves -/

namespace Move

/-- Whether it comes to that a state handles a message. -/
instance decidableReaches (r : Running σ) (m : Move) : Decidable (∃ r₁, m.Reaches r r₁) :=
  match m with
  | .send _ => isTrue ⟨r, .send⟩
  | .retry => isTrue ⟨r, .retry⟩
  | .generateCode =>
    match h : exec Session.acceptPlan r with
    | (.ok _, r₁) => isTrue ⟨r₁, .generateCode h⟩
    | (.error _, _) => isFalse fun ⟨_, .generateCode h'⟩ => by cases h.symm.trans h'
  | .preload _ | .acceptPlan | .acceptChanges _ | .handleError _ | .cancel _ | .edit _ =>
    isFalse fun ⟨_, h⟩ => by cases h

/-- Whether a move locks the input line. -/
def locksInput : Move → Bool
  | generateCode => true
  | preload _ | send _ | retry | acceptPlan | acceptChanges _ | handleError _ | cancel _
  | edit _ => false

/-- The number of errors that a move tells the user about. -/
def errorsTold : Move → Nat
  | handleError _ => 1
  | preload _ | send _ | retry | acceptPlan | generateCode | acceptChanges _ | cancel _
  | edit _ => 0

end Move

theorem generateCode_shows (env : Environment σ) {x₀ : Session} {r : Running σ}
    (hr : Sound x₀ r.session) :
    let locked := ∃ r₁, Move.generateCode.Reaches r r₁
    r.world.Shows x₀.tabId (if locked then [true, false] else [])
      (if locked then [false, true] else []) 0 (exec (generateCode env) r).2.world := by
  intro locked
  obtain ⟨x, w⟩ := r
  obtain ⟨x₁, res₁, w₁, h₁, acceptance, f₁⟩ := acceptPlan_spec x w
  rcases generateCode_cases env x w with ⟨e, r, h, hrun⟩ |
    ⟨x₂, w₂, t, files, x', res, w', h, hrun, forward, f⟩
  · obtain ⟨rfl, rfl⟩ := Prod.mk.inj (h₁.symm.trans h)
    have hlocked : ¬locked := fun ⟨_, .generateCode h'⟩ => by cases h.symm.trans h'
    rw [hrun, if_neg hlocked, if_neg hlocked]
    exact ⟨[], f₁.log, .nil⟩
  · obtain ⟨rfl, h₂⟩ := Prod.mk.inj (h₁.symm.trans h)
    obtain ⟨rfl, rfl⟩ := Running.mk.inj h₂
    have hlocked : locked := ⟨_, .generateCode h⟩
    have hx := acceptance.sound hr
    have hmessage := forward.signals (hx.stateTabId.trans hx.tabId.symm)
    have hdisable := Signals.of_event (.chatInputEnabled x₁.tabId false) [] [false] 0 rfl rfl rfl
    have hwriting :=
      Signals.of_event (.updatePlaceholder x₁.tabId writingPlaceholder) [] [] 0 rfl rfl rfl
    have henable := Signals.of_event (.chatInputEnabled x₁.tabId true) [] [true] 0 rfl rfl rfl
    have hfeedback :=
      Signals.of_event (.updatePlaceholder x₁.tabId feedbackPlaceholder) [] [] 0 rfl rfl rfl
    rw [hrun, if_pos hlocked, if_pos hlocked, ← hx.tabId]
    exact ⟨_, (f₁.trans f).log,
      hdisable.append (hwriting.append (hmessage.append (henable.append hfeedback)))⟩

/-- During a move something is in progress while a state handles a message, and the input line is
locked while that is to generate code for the plan. -/
theorem perform_shows (env : Environment σ) {x₀ : Session} {r : Running σ}
    (hr : Sound x₀ r.session) (m : Move) :
    let reached := ∃ r₁, m.Reaches r r₁
    r.world.Shows x₀.tabId (if reached then [true, false] else [])
      (if m.locksInput ∧ reached then [false, true] else []) m.errorsTold
      (exec (m.perform env) r).2.world := by
  intro reached
  obtain ⟨x, w⟩ := r
  cases m with
  | preload message =>
      obtain ⟨t, x', res, w', h, step, f⟩ := preload_spec env message x w
      rw [Move.perform, exec_return, h]
      refine ⟨t, f.log, ?_⟩
      generalize res.map _ = reply at step
      cases step with
      | startedBefore => exact .nil
      | notStarted | started => exact .of_call _ _
  | send message =>
      rw [Move.perform, exec_return, exec_send]
      exact forward_shows env (x := { x with lastMessage := some message }) hr.tabId
        hr.stateTabId _ w
  | retry =>
      rw [Move.perform, exec_return, exec_retry]
      exact forward_shows env hr.tabId hr.stateTabId _ w
  | acceptPlan =>
      obtain ⟨x', res, w', h, -, f⟩ := acceptPlan_spec x w
      rw [Move.perform, exec_return, h]
      exact ⟨[], f.log, .nil⟩
  | generateCode =>
      have hlocks : (Move.generateCode.locksInput = true ∧ reached) = reached :=
        propext (and_iff_right rfl)
      rw [Move.perform, exec_return]
      simp only [hlocks]
      exact generateCode_shows env hr
  | acceptChanges disk =>
      obtain ⟨t, res, fs, h, step⟩ := acceptChanges_spec env.format disk x w
      rw [Move.perform, exec_return, h]
      refine ⟨t, rfl, ?_⟩
      rw [← hr.tabId]
      generalize res.map _ = reply at step
      cases step with
      | notWritten => exact .nil
      | written =>
          exact .of_event
            (.answer { kind := .answer, tabId := x.tabId, message := some acceptedNotice })
            [] [] 0 rfl rfl rfl
  | handleError e =>
      refine ⟨[_], rfl, ?_⟩
      rw [← hr.tabId]
      exact Signals.of_event (.errorMessage _ x.tabId _ _) [] [] 1 rfl rfl rfl
  | cancel token => exact ⟨[], rfl, .nil⟩
  | edit files => exact ⟨[], rfl, .nil⟩

/-- The operation behind a move shows what the move shows. -/
theorem shows_of_move {α : Type} (env : Environment σ) {x₀ : Session} {r : Running σ}
    (hr : Sound x₀ r.session) (m : Move) {o : Operation σ α} {f : α → Reply}
    (ho : m.perform env = do return f (← o)) :
    let reached := ∃ r₁, m.Reaches r r₁
    r.world.Shows x₀.tabId (if reached then [true, false] else [])
      (if m.locksInput ∧ reached then [false, true] else []) m.errorsTold
      (exec o r).2.world := by
  have hmove := perform_shows env hr m
  rwa [ho, exec_return] at hmove

end Session

end Codewright
