import Codewright.Markup.Passage
import Mathlib.Data.List.Infix

/-!
# What is deleted

A passage is recognised from its first character on, so `deleteAll` leaves a text alone up to the
first place where one begins, and goes on behind it. All that is known of a deletion follows from
this.
-/

namespace Codewright.Markup

variable {read close : List Char → Option (List Char)} {s t : List Char} {c : Char}

/-! ## Places where nothing begins -/

/-- Nothing that `read` recognises begins in `s`. -/
def Absent (read : List Char → Option (List Char)) (s : List Char) : Prop :=
  ∀ u, u <:+ s → read u = none

instance : Decidable (Absent read s) :=
  decidable_of_iff (∀ u ∈ s.tails, read u = none) (by simp only [Absent, List.mem_tails])

/-- Nothing that `read` recognises begins in `s` when `t` follows. -/
def Bare (read : List Char → Option (List Char)) (s t : List Char) : Prop :=
  ∀ u, u ≠ [] → u <:+ s → read (u ++ t) = none

theorem bare_of_forall
    (h : ∀ {c u r}, c :: u <:+ s → read (c :: (u ++ t)) = some r → False) : Bare read s t := by
  intro u hu hus
  obtain ⟨c, u, rfl⟩ := List.exists_cons_of_ne_nil hu
  exact Option.eq_none_iff_forall_ne_some.mpr fun r hr => h hus hr

theorem Bare.head (h : Bare read (c :: s) t) : read (c :: (s ++ t)) = none :=
  h _ (List.cons_ne_nil c s) List.suffix_rfl

theorem Bare.tail (h : Bare read (c :: s) t) : Bare read s t :=
  fun u hu hs => h u hu (hs.trans (List.suffix_cons c s))

theorem Bare.cons (hc : read (c :: (s ++ t)) = none) (h : Bare read s t) :
    Bare read (c :: s) t := by
  intro u hu hs
  rcases List.suffix_cons_iff.mp hs with rfl | hs
  · exact hc
  · exact h u hu hs

/-- What `read` leaves is the end of the text. -/
def Cuts (read : List Char → Option (List Char)) : Prop :=
  ∀ {s r}, read s = some r → r <:+ s

/-- The text behind the first close is found behind all that holds none. -/
theorem afterFirst_append (h : Bare close s t) :
    afterFirst close (s ++ t) = afterFirst close t := by
  induction s with
  | nil => rfl
  | cons c s ih =>
      rw [List.cons_append, afterFirst, h.head]
      exact ih h.tail

theorem afterFirst_of_eq_some {r : List Char} (h : close s = some r) : afterFirst close s = r := by
  unfold afterFirst
  rw [h]

theorem afterFirst_suffix (h : Cuts close) (s : List Char) : afterFirst close s <:+ s := by
  fun_induction afterFirst close s with
  | case1 s r hr => exact h hr
  | case2 => exact List.suffix_rfl
  | case3 c s _ ih => exact ih.trans (List.suffix_cons c s)

/-! ## Deletions -/

namespace Passage

variable {p : Passage}

theorem after?_nil (p : Passage) : p.after? [] = none :=
  Option.eq_none_iff_forall_ne_some.mpr fun _ h => Nat.not_lt_zero _ (p.shorter h)

theorem deleteAll_of_eq_some {r : List Char} (h : p.after? s = some r) :
    p.deleteAll s = p.deleteAll r := by
  rw [deleteAll]
  split
  · rename_i r' h'
    rw [Option.some.inj (h.symm.trans h')]
  · rename_i h'
    cases h.symm.trans h'

theorem deleteAll_nil : p.deleteAll [] = [] := by
  rw [deleteAll]
  split
  · rename_i h
    cases p.after?_nil.symm.trans h
  · rfl

theorem deleteAll_cons (h : p.after? (c :: s) = none) :
    p.deleteAll (c :: s) = c :: p.deleteAll s := by
  rw [deleteAll]
  split
  · rename_i h'
    cases h.symm.trans h'
  · rfl

/-- A scan for passages from left to right: it jumps behind each one, or goes on by a character. -/
theorem scan_induction {motive : List Char → Prop} (p : Passage) (nil : motive [])
    (jump : ∀ {s r}, p.after? s = some r → motive r → motive s)
    (step : ∀ {c s}, p.after? (c :: s) = none → motive s → motive (c :: s)) (s : List Char) :
    motive s := by
  fun_induction p.deleteAll s with
  | case1 s r h ih => exact jump h ih
  | case2 => exact nil
  | case3 c s h ih => exact step h ih

/-- What comes before the first passage is kept. -/
theorem deleteAll_append (h : Bare p.after? s t) : p.deleteAll (s ++ t) = s ++ p.deleteAll t := by
  induction s with
  | nil => rfl
  | cons c s ih =>
      rw [List.cons_append, deleteAll_cons h.head, ih h.tail]
      rfl

theorem deleteAll_eq_self (h : Bare p.after? s []) : p.deleteAll s = s := by
  have := deleteAll_append h
  rwa [deleteAll_nil, List.append_nil] at this

/-- A deletion takes away and adds nothing. -/
theorem deleteAll_sublist (hp : Cuts p.after?) (s : List Char) : (p.deleteAll s).Sublist s := by
  induction s using p.scan_induction with
  | nil => rw [deleteAll_nil]
  | jump h ih =>
      rw [deleteAll_of_eq_some h]
      exact ih.trans (hp h).sublist
  | step h ih =>
      rw [deleteAll_cons h]
      exact ih.cons_cons _

/-- In a scan of `s` for passages, one stands at `u` at some time. -/
inductive Reaches (p : Passage) : List Char → List Char → Prop where
  | here {s : List Char} : Reaches p s s
  | jump {s r u : List Char} : p.after? s = some r → Reaches p r u → Reaches p s u
  | step {c : Char} {s u : List Char} : p.after? (c :: s) = none → Reaches p s u →
      Reaches p (c :: s) u

theorem Reaches.suffix (hp : Cuts p.after?) {u : List Char} (h : p.Reaches s u) : u <:+ s := by
  induction h with
  | here => exact List.suffix_rfl
  | jump h _ ih => exact ih.trans (hp h)
  | step _ _ ih => exact ih.trans (List.suffix_cons _ _)

/-- What is left begins, at each place, where the scan has kept a character. -/
theorem exists_reached_of_suffix {v : List Char} (h : c :: v <:+ p.deleteAll s) :
    ∃ x, p.Reaches s (c :: x) ∧ p.after? (c :: x) = none ∧ v = p.deleteAll x := by
  induction s using p.scan_induction with
  | nil =>
      rw [deleteAll_nil] at h
      exact absurd (List.suffix_nil.mp h) (List.cons_ne_nil c v)
  | jump hr ih =>
      rw [deleteAll_of_eq_some hr] at h
      obtain ⟨x, hx, hkept, hv⟩ := ih h
      exact ⟨x, .jump hr hx, hkept, hv⟩
  | @step d s hd ih =>
      rw [deleteAll_cons hd] at h
      rcases List.suffix_cons_iff.mp h with heq | h
      · obtain ⟨rfl, rfl⟩ := List.cons.inj heq
        exact ⟨s, .here, hd, rfl⟩
      · obtain ⟨x, hx, hkept, hv⟩ := ih h
        exact ⟨x, .step hd hx, hkept, hv⟩

end Passage

end Codewright.Markup
