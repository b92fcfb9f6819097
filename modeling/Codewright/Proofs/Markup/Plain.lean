import Codewright.Markup.Sanitize

/-!
# Plain text

A text without angle brackets holds nothing that could be read as markup. What is left of a text
without its markup is plain, and plain texts put together are plain.
-/

namespace Codewright.Markup

/-- There is no angle bracket in a text. -/
def Plain (s : String) : Prop :=
  '<' ∉ s.toList ∧ '>' ∉ s.toList

instance (s : String) : Decidable (Plain s) :=
  inferInstanceAs (Decidable (_ ∧ _))

theorem plain_empty : Plain "" := by decide

theorem plain_append {a b : String} : Plain (a ++ b) ↔ Plain a ∧ Plain b := by
  simp only [Plain, String.toList_append, List.mem_append, not_or]
  exact and_and_and_comm

theorem plain_ofList {s : List Char} : Plain (String.ofList s) ↔ '<' ∉ s ∧ '>' ∉ s := by
  rw [Plain, String.toList_ofList]

/-- A number is written in digits. -/
theorem plain_toString (n : Nat) : Plain (toString n) := by
  have digits : ∀ c ∈ Nat.toDigits 10 n, c.isDigit = true := fun c hc =>
    Nat.isDigit_of_mem_toDigits (by decide) (Nat.le_refl 10) hc
  change Plain (String.ofList (Nat.toDigits 10 n))
  rw [plain_ofList]
  constructor
  all_goals
    intro hc
    exact absurd (digits _ hc) (by decide)

theorem brackets_not_mem_escapeChar (c : Char) : '<' ∉ escapeChar c ∧ '>' ∉ escapeChar c := by
  unfold escapeChar
  split
  · decide
  · split
    · decide
    · rename_i hlt hgt
      exact ⟨fun h => hlt (List.mem_singleton.mp h).symm,
        fun h => hgt (List.mem_singleton.mp h).symm⟩

/-- No angle bracket is left once a text has been rid of its markup. -/
theorem plain_sanitize (s : String) : Plain (sanitize s) := by
  rw [sanitize, plain_ofList]
  refine ⟨fun h => ?_, fun h => ?_⟩
  · obtain ⟨c, -, hc⟩ := List.mem_flatMap.mp h
    exact (brackets_not_mem_escapeChar c).1 hc
  · obtain ⟨c, -, hc⟩ := List.mem_flatMap.mp h
    exact (brackets_not_mem_escapeChar c).2 hc

end Codewright.Markup
