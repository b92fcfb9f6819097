import Mathlib.Data.List.TakeWhile
import Codewright.Text.Blank

/-!
# Trimming

A text is what is left of it when it is trimmed, with white space around.
-/

namespace Codewright.Text

variable {s : String} {before text after : List Char}

theorem toList_trim (s : String) : (trim s).toList = trimRight (trimLeft s.toList) :=
  String.toList_ofList

theorem exists_padding (s : String) :
    ∃ before after, s.toList = before ++ (trim s).toList ++ after ∧
      (∀ c ∈ before, isBlank c = true) ∧ ∀ c ∈ after, isBlank c = true := by
  let left := trimLeft s.toList
  refine ⟨s.toList.takeWhile isBlank, (left.reverse.takeWhile isBlank).reverse, ?_,
    fun c hc => List.mem_takeWhile_imp hc,
    fun c hc => List.mem_takeWhile_imp (List.mem_reverse.mp hc)⟩
  have hright : trimRight left ++ (left.reverse.takeWhile isBlank).reverse = left := by
    rw [trimRight, ← List.reverse_append, List.takeWhile_append_dropWhile, List.reverse_reverse]
  rw [toList_trim, List.append_assoc, hright]
  exact List.takeWhile_append_dropWhile.symm

theorem dropWhile_eq_self (h : ∀ c ∈ text, isBlank c = false) : text.dropWhile isBlank = text := by
  refine List.dropWhile_eq_self_iff.mpr fun hl => ?_
  rw [h _ (List.getElem_mem hl)]
  exact Bool.false_ne_true

/-- White space around a text without any is trimmed off. -/
theorem trim_of_padded (hs : s.toList = before ++ text ++ after)
    (hbefore : ∀ c ∈ before, isBlank c = true) (hafter : ∀ c ∈ after, isBlank c = true)
    (htext : ∀ c ∈ text, isBlank c = false) : (trim s).toList = text := by
  have hleft : trimLeft s.toList = trimLeft (text ++ after) := by
    rw [hs, List.append_assoc, trimLeft, List.dropWhile_append_of_pos hbefore, trimLeft]
  rw [toList_trim, hleft, trimLeft, List.dropWhile_append, dropWhile_eq_self htext]
  split
  · rename_i hnil
    rw [List.isEmpty_iff] at hnil
    rw [List.dropWhile_eq_nil_iff.mpr hafter, hnil]
    rfl
  · have hrev : ∀ c ∈ after.reverse, isBlank c = true := fun c hc =>
      hafter c (List.mem_reverse.mp hc)
    have htextRev : ∀ c ∈ text.reverse, isBlank c = false := fun c hc =>
      htext c (List.mem_reverse.mp hc)
    rw [trimRight, List.reverse_append, List.dropWhile_append_of_pos hrev,
      dropWhile_eq_self htextRev, List.reverse_reverse]

/-- Of white space nothing is left. -/
theorem trim_of_blank (h : isBlankText s = true) : trim s = "" := by
  have hall : ∀ c ∈ s.toList, isBlank c = true := List.all_eq_true.mp h
  rw [trim, trimLeft, List.dropWhile_eq_nil_iff.mpr hall]
  rfl

end Codewright.Text
