import Codewright.Session.Token

/-!
# Tokens over time

Tokens are made and cancelled, and neither is ever taken back. Cancelling a token cancels the tokens
below it.
-/

namespace Codewright.Session.Tokens

variable {ts ts' ts'' : Tokens} {t u : Token}

/-- From `ts` to `ts'` tokens have been made and cancelled. -/
structure Grown (ts ts' : Tokens) : Prop where
  next : ts.next ≤ ts'.next
  cancelled : ts.cancelled ⊆ ts'.cancelled

theorem Grown.refl (ts : Tokens) : Grown ts ts :=
  ⟨Nat.le_refl _, List.Subset.refl _⟩

theorem Grown.trans (h : Grown ts ts') (h' : Grown ts' ts'') : Grown ts ts'' :=
  ⟨Nat.le_trans h.next h'.next, List.Subset.trans h.cancelled h'.cancelled⟩

theorem isCancelled_iff : ts.isCancelled t = true ↔ ∃ id ∈ t.id :: t.above, id ∈ ts.cancelled := by
  rw [isCancelled, List.any_eq_true]
  simp only [List.contains_iff_mem]

theorem Grown.isCancelled (h : Grown ts ts') (ht : ts.isCancelled t = true) :
    ts'.isCancelled t = true := by
  obtain ⟨id, hid, hc⟩ := isCancelled_iff.mp ht
  exact isCancelled_iff.mpr ⟨id, hid, h.cancelled hc⟩

theorem grown_fresh (ts : Tokens) : Grown ts ts.fresh.2 :=
  ⟨Nat.le_succ _, List.Subset.refl _⟩

theorem grown_child (ts : Tokens) (t : Token) : Grown ts (ts.child t).2 :=
  ⟨Nat.le_succ _, List.Subset.refl _⟩

theorem grown_cancel (ts : Tokens) (t : Token) : Grown ts (ts.cancel t) := by
  unfold cancel
  split
  · exact ⟨Nat.le_refl _, List.subset_cons_self _ _⟩
  · exact .refl ts

/-- With more tokens made, no fewer are cancelled. -/
theorem Grown.cancel (h : Grown ts ts') (t : Token) : Grown (ts.cancel t) (ts'.cancel t) := by
  by_cases ht : t.id < ts.next
  · have ht' : t.id < ts'.next := Nat.lt_of_lt_of_le ht h.next
    rw [Tokens.cancel, if_pos ht, Tokens.cancel, if_pos ht']
    exact ⟨h.next, List.cons_subset_cons _ h.cancelled⟩
  · rw [Tokens.cancel, if_neg ht]
    exact h.trans (grown_cancel ts' t)

theorem grown_cancelAll (ts : Tokens) (l : List Token) : Grown ts (l.foldl Tokens.cancel ts) := by
  induction l generalizing ts with
  | nil => exact .refl ts
  | cons t l ih => exact (grown_cancel ts t).trans (ih _)

theorem Grown.cancelAll (h : Grown ts ts') (l : List Token) :
    Grown (l.foldl Tokens.cancel ts) (l.foldl Tokens.cancel ts') := by
  induction l generalizing ts ts' with
  | nil => exact h
  | cons t l ih => exact ih (h.cancel t)

/-- A token below another one is cancelled with it. -/
theorem isCancelled_child (made : Tokens) (h : ts.isCancelled t = true) :
    ts.isCancelled (made.child t).1 = true := by
  obtain ⟨id, hid, hc⟩ := isCancelled_iff.mp h
  exact isCancelled_iff.mpr ⟨id, List.mem_cons_of_mem _ hid, hc⟩

/-! ## Tokens of their own -/

/-- Only tokens that have been made are cancelled. -/
def OnlyMade (ts : Tokens) : Prop :=
  ∀ id ∈ ts.cancelled, id < ts.next

/-- From `ts` to `ts'` tokens have been made and cancelled, and none before it was made. -/
structure Evolved (ts ts' : Tokens) : Prop extends Grown ts ts' where
  onlyMade : ts.OnlyMade → ts'.OnlyMade

theorem Evolved.refl (ts : Tokens) : Evolved ts ts :=
  ⟨.refl ts, id⟩

theorem Evolved.trans (h : Evolved ts ts') (h' : Evolved ts' ts'') : Evolved ts ts'' :=
  ⟨h.toGrown.trans h'.toGrown, h'.onlyMade ∘ h.onlyMade⟩

theorem evolved_fresh (ts : Tokens) : Evolved ts ts.fresh.2 :=
  ⟨grown_fresh ts, fun h id hid => Nat.lt_succ_of_lt (h id hid)⟩

theorem evolved_child (ts : Tokens) (t : Token) : Evolved ts (ts.child t).2 :=
  ⟨grown_child ts t, fun h id hid => Nat.lt_succ_of_lt (h id hid)⟩

theorem evolved_cancel (ts : Tokens) (t : Token) : Evolved ts (ts.cancel t) := by
  refine ⟨grown_cancel ts t, fun h => ?_⟩
  unfold cancel
  split
  · intro id hid
    rcases List.mem_cons.mp hid with rfl | hid
    · assumption
    · exact h id hid
  · exact h

theorem evolved_cancelAll (ts : Tokens) (l : List Token) : Evolved ts
    (l.foldl Tokens.cancel ts) := by
  induction l generalizing ts with
  | nil => exact .refl ts
  | cons t l ih => exact (evolved_cancel ts t).trans (ih _)

/-- A token that has been made and is below no other one. -/
structure Made (ts : Tokens) (t : Token) : Prop where
  above : t.above = []
  lt : t.id < ts.next

theorem Made.grown (h : ts.Made t) (hts : Grown ts ts') : ts'.Made t :=
  ⟨h.above, Nat.lt_of_lt_of_le h.lt hts.next⟩

theorem made_fresh (ts : Tokens) : ts.fresh.2.Made ts.fresh.1 :=
  ⟨rfl, Nat.lt_succ_self _⟩

theorem isCancelled_iff_mem (ht : t.above = []) :
    ts.isCancelled t = true ↔ t.id ∈ ts.cancelled := by
  rw [isCancelled_iff, ht]
  simp

/-- A new token is not cancelled. -/
theorem isCancelled_fresh (h : ts.OnlyMade) : ts.fresh.2.isCancelled ts.fresh.1 = false := by
  rw [← Bool.not_eq_true, isCancelled_iff_mem rfl]
  intro hmem
  exact absurd (h _ hmem) (Nat.lt_irrefl _)

theorem Made.isCancelled_cancel (h : ts.Made t) : (ts.cancel t).isCancelled t = true := by
  rw [isCancelled_iff_mem h.above, cancel, if_pos h.lt]
  exact List.mem_cons_self

/-- Cancelling one token leaves another one alone. -/
theorem isCancelled_cancel_of_ne (hu : u.above = []) (h : t.id ≠ u.id) :
    (ts.cancel t).isCancelled u = ts.isCancelled u := by
  rw [Bool.eq_iff_iff, isCancelled_iff_mem hu, isCancelled_iff_mem hu, cancel]
  split
  · rw [List.mem_cons, or_iff_right h.symm]
  · rfl

end Codewright.Session.Tokens
