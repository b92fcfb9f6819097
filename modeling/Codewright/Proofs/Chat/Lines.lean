import Codewright.Chat.Channel
import Codewright.Proofs.Json.Written
import Codewright.Text.Blank

/-!
# Events as lines

What is printed can be taken apart again. No line has a line feed in it, so that the output falls
into its lines; and no two events have the same line, whatever texts they carry.
-/

namespace Codewright.Chat

/-! ## Written forms -/

theorem AnswerKind.name_injective : Function.Injective AnswerKind.name := by
  intro k k'
  cases k <;> cases k' <;> decide

theorem FollowUpKind.name_injective : Function.Injective FollowUpKind.name := by
  intro k k'
  cases k <;> cases k' <;> decide

theorem FollowUpStatus.name_injective : Function.Injective FollowUpStatus.name := by
  intro s s'
  cases s <;> cases s' <;> decide

theorem phaseName_injective : Function.Injective Session.Phase.name := by
  intro p p'
  cases p <;> cases p' <;> decide

theorem ofText?_injective : Function.Injective Json.ofText? := by
  intro s? s?' h
  cases s? with
  | none =>
      cases s?' with
      | none => rfl
      | some => cases h
  | some s =>
      cases s?' with
      | none => cases h
      | some s' => exact congrArg some (Json.text.inj h)

theorem texts_injective : Function.Injective (List.map Json.text) :=
  fun _ _ h => (List.map_inj_right fun _ _ => Json.text.inj).mp h

theorem FollowUp.toJson_injective : Function.Injective FollowUp.toJson := by
  rintro ⟨text, kind, status⟩ ⟨text', kind', status'⟩ h
  simp only [toJson, Json.record.injEq, List.cons.injEq, Prod.mk.injEq, Json.text.injEq,
    true_and] at h
  obtain ⟨rfl, hkind, hstatus⟩ := h
  obtain rfl := FollowUpKind.name_injective hkind
  cases status with
  | none =>
      cases status' with
      | none => rfl
      | some => cases hstatus
  | some s =>
      cases status' with
      | none => cases hstatus
      | some s' =>
          have hname : s.name = s'.name := by simpa using hstatus
          rw [FollowUpStatus.name_injective hname]

theorem Answer.toJson_injective : Function.Injective Answer.toJson := by
  rintro ⟨kind, tabId, message, followUps⟩ ⟨kind', tabId', message', followUps'⟩ h
  simp only [toJson, Json.record.injEq, List.cons.injEq, Prod.mk.injEq, Json.text.injEq,
    true_and] at h
  obtain ⟨hmessage, hkind, rfl, hfollowUps⟩ := h
  obtain rfl := ofText?_injective hmessage
  obtain rfl := AnswerKind.name_injective hkind
  cases followUps with
  | nil =>
      cases followUps' with
      | nil => rfl
      | cons => cases hfollowUps
  | cons f fs =>
      cases followUps' with
      | nil => cases hfollowUps
      | cons f' fs' =>
          have hmap : (f :: fs).map FollowUp.toJson = (f' :: fs').map FollowUp.toJson := by
            simpa using hfollowUps
          rw [(List.map_inj_right fun _ _ hf => FollowUp.toJson_injective hf).mp hmap]

namespace Event

theorem toJson_injective : Function.Injective toJson := by
  intro e e' h
  -- The type comes first and tells the six kinds of events apart.
  cases e <;> cases e' <;>
    simp only [toJson, Json.record.injEq, List.cons.injEq, Prod.mk.injEq, Json.text.injEq,
      Json.number.injEq, Json.bool.injEq, Json.list.injEq, String.reduceEq, true_and, and_true,
      false_and] at h
  case answer.answer a a' => rw [Answer.toJson_injective h]
  case errorMessage.errorMessage =>
    obtain ⟨rfl, rfl, rfl, hphase⟩ := h
    rw [phaseName_injective hphase]
  case codeResult.codeResult =>
    obtain ⟨hfiles, hdeleted, rfl, rfl⟩ := h
    rw [texts_injective hfiles, texts_injective hdeleted]
  case progress.progress =>
    obtain ⟨rfl, rfl, hmessage⟩ := h
    rw [ofText?_injective hmessage]
  case updatePlaceholder.updatePlaceholder =>
    obtain ⟨rfl, rfl⟩ := h
    rfl
  case chatInputEnabled.chatInputEnabled =>
    obtain ⟨rfl, rfl⟩ := h
    rfl

theorem line_injective : Function.Injective line :=
  Json.render_injective.comp toJson_injective

theorem plain_line (e : Event) : Json.Plain e.line.toList := by
  rw [line, Json.render, String.toList_ofList]
  exact Json.plain_chars e.toJson

end Event

/-! ## Output -/

theorem pieces_append {α : Type} {sep : α → Bool} {x : α} {row rest : List α}
    (hrow : ∀ y ∈ row, sep y = false) (hx : sep x = true) :
    Text.pieces sep (row ++ x :: rest) = row :: Text.pieces sep rest := by
  induction row with
  | nil => rw [List.nil_append, Text.pieces, if_pos hx]
  | cons y row ih =>
      have hy : ¬ sep y = true := by simp [hrow y (.head _)]
      rw [List.cons_append, Text.pieces, if_neg hy, ih fun z hz => hrow z (.tail _ hz)]

/-- What is printed when these events arrive. -/
def printed (events : List Event) : String :=
  String.join (events.map fun e => e.line ++ "\n")

theorem printed_cons (e : Event) (events : List Event) :
    (printed (e :: events)).toList = e.line.toList ++ '\n' :: (printed events).toList := by
  simp [printed]

theorem pieces_printed (events : List Event) :
    Text.pieces (· = '\n') (printed events).toList = events.map (·.line.toList) ++ [[]] := by
  induction events with
  | nil => rfl
  | cons e events ih =>
      have hplain : ∀ c ∈ e.line.toList, decide (c = '\n') = false := by
        intro c hc
        have hle := e.plain_line c hc
        rw [decide_eq_false_iff_not]
        rintro rfl
        exact absurd hle (by decide)
      rw [printed_cons, pieces_append hplain (by decide), ih, List.map_cons, List.cons_append]

theorem printed_injective : Function.Injective printed := by
  intro events events' h
  have hpieces := pieces_printed events
  rw [h, pieces_printed events'] at hpieces
  have hlines := List.append_cancel_right hpieces
  exact ((List.map_inj_right fun _ _ hline =>
    Event.line_injective (String.toList_inj.mp hline)).mp hlines).symm

theorem pending_foldl_send (events : List Event) (c : Channel) (h : c.isOpen = true) :
    (events.foldl Channel.send c).pending = events.reverse ++ c.pending := by
  induction events generalizing c with
  | nil => rfl
  | cons e events ih =>
      rw [List.foldl_cons, ih _ (by simp [Channel.send, h])]
      simp [Channel.send, h]

theorem take_foldl_send (events : List Event) :
    (events.foldl Channel.send {}).take.1 = events := by
  simp [Channel.take, pending_foldl_send]

/-- The events that went through a channel stand in the output one after another, each on a line of
its own, and the output tells which events they were. -/
theorem output_tells_events :
    (∀ e : Event, e.line.toList.all (0x20 ≤ ·.toNat) = true) ∧
      (∀ e e' : Event, e.line = e'.line → e = e') ∧
      (∀ events : List Event,
        Text.pieces (· = '\n') (printed (events.foldl Channel.send {}).take.1).toList =
          events.map (·.line.toList) ++ [[]]) ∧
      ∀ events events' : List Event, printed events = printed events' → events = events' := by
  refine ⟨fun e => ?_, fun _ _ h => Event.line_injective h, fun events => ?_,
    fun _ _ h => printed_injective h⟩
  · rw [List.all_eq_true]
    exact fun c hc => decide_eq_true (e.plain_line c hc)
  · rw [take_foldl_send]
    exact pieces_printed events

end Codewright.Chat
