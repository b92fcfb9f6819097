import Codewright.Markup.Sanitize
import Codewright.Proofs.Markup.Element
import Codewright.Proofs.Markup.Plain

/-!
# Text between tags

Of a text with tags in it, all that is outside the tags is left, with the angle brackets in it
escaped. Tags are told from the `<` of a comparison by what is directly behind it.
-/

namespace Codewright.Markup

/-- A single tag, opening or closing. -/
inductive IsTag : List Char → Prop where
  | opening {c : Char} {x : List Char} : c.isAlpha → '<' ∉ x → '>' ∉ x →
      IsTag ('<' :: c :: (x ++ ['>']))
  | closing {c : Char} {x : List Char} : c.isAlpha → '<' ∉ x → '>' ∉ x →
      IsTag ('<' :: '/' :: c :: (x ++ ['>']))

/-- `s` is the text `u` with tags in it, none of which opens a code element. -/
inductive Tagged : List Char → List Char → Prop where
  | text {t : List Char} : Loose t [] → Tagged t t
  | tag {t g s u : List Char} : Loose t (g ++ s) → IsTag g → codeElement.after? g = none →
      Tagged s u → Tagged (t ++ (g ++ s)) (t ++ u)

namespace IsTag

variable {g : List Char}

theorem not_mem_letter_cons {b c : Char} {x : List Char} (hb : b.isAlpha = false)
    (hc : c.isAlpha = true) (h : b ∉ x) : b ∉ c :: x := by
  rintro (_ | ⟨_, hx⟩)
  · cases hb.symm.trans hc
  · exact h hx

/-- There are no angle brackets in a tag but those around it. -/
theorem exists_inner (h : IsTag g) :
    ∃ c x, g = '<' :: c :: (x ++ ['>']) ∧ (c.isAlpha = true ∨ c = '/') ∧
      '<' ∉ c :: x ∧ '>' ∉ c :: x := by
  cases h with
  | @opening c x hc hlt hgt =>
      exact ⟨c, x, rfl, .inl hc, not_mem_letter_cons rfl hc hlt, not_mem_letter_cons rfl hc hgt⟩
  | @closing c x hc hlt hgt =>
      have hlt : '<' ∉ c :: x := not_mem_letter_cons rfl hc hlt
      have hgt : '>' ∉ c :: x := not_mem_letter_cons rfl hc hgt
      exact ⟨'/', c :: x, rfl, .inr rfl, List.not_mem_cons_of_ne_of_not_mem (by decide) hlt,
        List.not_mem_cons_of_ne_of_not_mem (by decide) hgt⟩

theorem tag_after? (h : IsTag g) (s : List Char) : tag.after? (g ++ s) = some s := by
  have behind : ∀ {x : List Char}, '>' ∉ x → s = afterAngle (x ++ '>' :: s) := by
    intro x hx
    rw [afterAngle, dropWhile_up_to hx]
    rfl
  cases h with
  | @opening c x hc hlt hgt =>
      refine tag_after?_eq_some_iff.mpr ⟨c, x ++ '>' :: s, ?_, .inl ?_, behind hgt⟩
      · rw [startsTag, hc]
        rfl
      · simp
  | @closing c x hc hlt hgt =>
      refine tag_after?_eq_some_iff.mpr ⟨c, x ++ '>' :: s, ?_, .inr ?_, behind hgt⟩
      · rw [startsTag, hc]
        rfl
      · simp

theorem comment_after? (h : IsTag g) (s : List Char) : comment.after? (g ++ s) = none := by
  obtain ⟨c, x, rfl, hc, -⟩ := h.exists_inner
  refine Option.eq_none_iff_forall_ne_some.mpr fun r hr => ?_
  obtain ⟨y, hy, -⟩ := comment_after?_eq_some_iff.mp hr
  obtain ⟨-, hy⟩ := List.cons.inj hy
  obtain ⟨rfl, -⟩ := List.cons.inj hy
  rcases hc with hc | hc <;> cases hc

/-- Whether a tag opens a code element does not depend on what is behind it. -/
theorem codeElement_after? (h : IsTag g) (hg : codeElement.after? g = none) (s : List Char) :
    codeElement.after? (g ++ s) = none := by
  obtain ⟨c, x, rfl, -⟩ := h.exists_inner
  refine Option.not_isSome_iff_eq_none.mp fun hsome => ?_
  obtain ⟨name, hname, v, y, hv, hy, -, hend⟩ := codeElement_begins_iff.mp hsome
  have bracket : ∀ l ∈ name, sameLetter l '>' = false :=
    fun l hl => (sameLetter_bracket hname hl).2
  obtain rfl : (c :: x) ++ '>' :: s = v := by simpa using hv
  rw [afterName?_append_cons bracket] at hy
  obtain ⟨y', hy', rfl⟩ := Option.map_eq_some_iff.mp hy
  have hbegins : (codeElement.after? ('<' :: c :: (x ++ ['>']))).isSome := by
    refine codeElement_begins_iff.mpr
      ⟨name, hname, (c :: x) ++ ['>'], y' ++ ['>'], rfl, ?_, by simp, ?_⟩
    · rw [afterName?_append_cons bracket, hy']
      rfl
    · cases y' with
      | nil => exact hend
      | cons d y' => exact hend
  rw [hg] at hbegins
  cases hbegins

end IsTag

namespace Tagged

variable {s u : List Char} {p : Passage}

/-- Text with tags in it stays as it is if no tag is a passage. -/
theorem deleteAll_eq (hp : Marked p.after?)
    (htag : ∀ {g}, IsTag g → codeElement.after? g = none → ∀ s, p.after? (g ++ s) = none)
    (h : Tagged s u) : p.deleteAll s = s := by
  induction h with
  | text ht => exact Passage.deleteAll_eq_self (hp.bare ht)
  | @tag t g s u ht hg hcode _ ih =>
      have hbare : Bare p.after? g s := by
        have hhead := htag hg hcode s
        obtain ⟨c, x, rfl, -, hlt, -⟩ := hg.exists_inner
        refine .cons hhead (hp.bare (loose_of_not_mem ?_ s))
        simpa using hlt
      rw [Passage.deleteAll_append (hp.bare ht), Passage.deleteAll_append hbare, ih]

/-- What is left without the tags is the text between them. -/
theorem deleteAll_tag (h : Tagged s u) : Markup.tag.deleteAll s = u := by
  induction h with
  | text ht => exact Passage.deleteAll_eq_self (marked_tag.bare ht)
  | @tag t g s u ht hg _ _ ih =>
      rw [Passage.deleteAll_append (marked_tag.bare ht),
        Passage.deleteAll_of_eq_some (hg.tag_after? s), ih]

theorem strip_eq (h : Tagged s u) : strip s = u := by
  rw [strip, h.deleteAll_eq marked_codeElement fun hg hcode s => hg.codeElement_after? hcode s,
    h.deleteAll_eq marked_comment fun hg _ s => hg.comment_after? s, h.deleteAll_tag]

end Tagged

/-! ## Texts -/

theorem strip_of_not_mem {s : List Char} (h : '<' ∉ s) : strip s = s :=
  (Tagged.text (loose_of_not_mem h [])).strip_eq

theorem escape_of_not_mem {s : List Char} (hlt : '<' ∉ s) (hgt : '>' ∉ s) : escape s = s := by
  induction s with
  | nil => rfl
  | cons c s ih =>
      simp only [List.mem_cons, not_or] at hlt hgt
      rw [escape, List.flatMap_cons, escapeChar, if_neg (Ne.symm hlt.1), if_neg (Ne.symm hgt.1)]
      exact congrArg (c :: ·) (ih hlt.2 hgt.2)

/-- A plain text is left as it is. -/
theorem sanitize_of_plain {s : String} (h : Plain s) : sanitize s = s := by
  rw [sanitize, strip_of_not_mem h.1, escape_of_not_mem h.1 h.2, String.ofList_toList]

/-- A text is blank without its markup when what is left of it is white space. -/
theorem isBlankText_sanitize (s : String) :
    Text.isBlankText (sanitize s) = (strip s.toList).all Text.isBlank := by
  have blank : ∀ c, (escapeChar c).all Text.isBlank = Text.isBlank c := by
    intro c
    unfold escapeChar
    split
    · rename_i hc
      rw [hc]
      decide
    · split
      · rename_i hc
        rw [hc]
        decide
      · rw [List.all_cons, List.all_nil, Bool.and_true]
  rw [sanitize, Text.isBlankText, String.toList_ofList, escape, List.all_flatMap]
  exact congrArg _ (funext blank)

/-- Of a text with tags in it the tags go and the text stays, its angle brackets escaped. -/
theorem sanitize_tagged {s u : String} (h : Tagged s.toList u.toList) :
    sanitize s = String.ofList (escape u.toList) := by
  rw [sanitize, h.strip_eq]

theorem sanitize_tagged_comparison :
    Tagged "if a < b <b id='x'>then</b> c > d<".toList "if a < b then c > d<".toList ∧
      sanitize "if a < b <b id='x'>then</b> c > d<" =
        String.ofList (escape "if a < b then c > d<".toList) := by
  have opening : IsTag "<b id='x'>".toList :=
    .opening (c := 'b') (x := " id='x'".toList) (by decide) (by decide) (by decide)
  have closing : IsTag "</b>".toList :=
    .closing (c := 'b') (x := []) (by decide) (by decide) (by decide)
  have h : Tagged "if a < b <b id='x'>then</b> c > d<".toList "if a < b then c > d<".toList :=
    .tag (t := "if a < b ".toList) (u := "then c > d<".toList) (by decide) opening (by decide)
      (.tag (t := "then".toList) (by decide) closing (by decide) (.text (by decide)))
  exact ⟨h, sanitize_tagged h⟩

end Codewright.Markup
