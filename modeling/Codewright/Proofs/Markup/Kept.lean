import Codewright.Proofs.Markup.Tags

/-!
# What is kept

Markup is taken out of a text in three passes, each of which deletes parts of what the one before
has left, none in front of the first `<`. Then single characters are escaped. So the text keeps its
order, nothing is added to it but escapes, and since these hold no angle brackets there is nothing
left to do.
-/

namespace Codewright.Markup

variable {s : List Char}

theorem strip_sublist (s : List Char) : (strip s).Sublist s :=
  (Passage.deleteAll_sublist cuts_tag _).trans
    ((Passage.deleteAll_sublist cuts_comment _).trans
      (Passage.deleteAll_sublist cuts_codeElement s))

theorem strip_append (h : '<' ∉ s) (t : List Char) : strip (s ++ t) = s ++ strip t := by
  have bare : ∀ {p : Passage}, Marked p.after? → ∀ u, p.deleteAll (s ++ u) = s ++ p.deleteAll u :=
    fun hp u => Passage.deleteAll_append (hp.bare (loose_of_not_mem h u))
  rw [strip, bare marked_codeElement, bare marked_comment, bare marked_tag, strip]

theorem escape_append (s t : List Char) : escape (s ++ t) = escape s ++ escape t :=
  List.flatMap_append

theorem sanitize_append {a : String} (h : '<' ∉ a.toList) (b : String) :
    sanitize (a ++ b) = String.ofList (escape a.toList) ++ sanitize b := by
  rw [sanitize, String.toList_append, strip_append h, escape_append, String.ofList_append, sanitize]

theorem sanitize_sanitize (s : String) : sanitize (sanitize s) = sanitize s :=
  sanitize_of_plain (plain_sanitize s)

/-- Markup is taken out by deleting parts of the text, nothing in front of the first `<`, and
escaping the angle brackets that are left. A plain text stays as it is, and doing it again changes
nothing. -/
theorem sanitize_deletes_escapes (s : String) :
    (∃ t : String, t.toList.Sublist s.toList ∧ sanitize s = String.ofList (escape t.toList)) ∧
      (∀ a b : String, s = a ++ b → '<' ∉ a.toList →
        sanitize s = String.ofList (escape a.toList) ++ sanitize b) ∧
      (Plain s → sanitize s = s) ∧ sanitize (sanitize s) = sanitize s := by
  refine ⟨⟨String.ofList (strip s.toList), ?_, ?_⟩, ?_, sanitize_of_plain, sanitize_sanitize s⟩
  · rw [String.toList_ofList]
    exact strip_sublist s.toList
  · rw [String.toList_ofList, sanitize]
  · rintro a b rfl h
    exact sanitize_append h b

theorem sanitize_deletes_escapes_escaped :
    Plain "a &lt; b -- c" ∧ sanitize "a &lt; b -- c" = "a &lt; b -- c" ∧
      sanitize "-> <b>" = "-&gt; " := by
  have h : Plain "a &lt; b -- c" := by decide
  have hkept := (sanitize_deletes_escapes "-> <b>").2.1 "-> " "<b>" (by decide) (by decide)
  have hrest : String.ofList (escape "-> ".toList) ++ sanitize "<b>" = "-&gt; " := by
    decide +kernel
  exact ⟨h, (sanitize_deletes_escapes "a &lt; b -- c").2.2.1 h, hkept.trans hrest⟩

end Codewright.Markup
