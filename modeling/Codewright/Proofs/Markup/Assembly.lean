import Codewright.Markup.Sanitize
import Codewright.Proofs.Markup.Element

/-!
# Names put together

When a passage is deleted, what was in front of it and what was behind it come together. That is
the only way in which a code element can be left: its name is put together from both sides of a
deleted code element or comment.
-/

namespace Codewright.Markup

variable {p : Passage} {name s x y t : List Char}

/-- Behind some of the letters of `name` at the front of `x` a passage is deleted, and what is left
behind it goes on with the others. -/
def Interrupts (p : Passage) (name x : List Char) : Prop :=
  ∃ l₁ l₂ y z, name = l₁ ++ l₂ ∧ l₂ ≠ [] ∧ afterName? l₁ x = some y ∧ p.after? y = some z ∧
    (afterName? l₂ (p.deleteAll z)).isSome

/-- A deletion of passages in `s` puts `name` together behind a `<` that is kept. -/
def Joins (p : Passage) (name s : List Char) : Prop :=
  ∃ x, p.Reaches s ('<' :: x) ∧ p.after? ('<' :: x) = none ∧ Interrupts p name x

/-- A name that is left has been there before, or a passage has been deleted within it. -/
theorem afterName?_deleteAll (h : afterName? name (p.deleteAll x) = some t) :
    (∃ y, afterName? name x = some y ∧ t = p.deleteAll y) ∨ Interrupts p name x := by
  induction name generalizing x with
  | nil => exact .inl ⟨x, rfl, (Option.some.inj h).symm⟩
  | cons l name ih =>
      cases hx : p.after? x with
      | some z =>
          rw [Passage.deleteAll_of_eq_some hx] at h
          exact .inr ⟨[], l :: name, x, z, rfl, List.cons_ne_nil l name, rfl, hx,
            Option.isSome_iff_exists.mpr ⟨t, h⟩⟩
      | none =>
          cases x with
          | nil =>
              rw [Passage.deleteAll_nil] at h
              cases h
          | cons c x =>
              rw [Passage.deleteAll_cons hx, afterName?] at h
              split at h
              · rename_i hc
                rcases ih h with ⟨y, hy, ht⟩ | ⟨l₁, l₂, y, z, hl, hne, hy, hz, hrest⟩
                · exact .inl ⟨y, by rw [afterName?, if_pos hc, hy], ht⟩
                · exact .inr ⟨l :: l₁, l₂, y, z, by rw [hl]; rfl, hne,
                    by rw [afterName?, if_pos hc, hy], hz, hrest⟩
              · cases h

/-- The first character that is left is the first one of the text or has a `<` in its place. -/
theorem head?_deleteAll (hp : Marked p.after?) (c : Char) (h : (p.deleteAll y).head? = some c) :
    y.head? = some c ∨ y.head? = some '<' := by
  cases hy : p.after? y with
  | some z =>
      obtain ⟨d, x, rfl, -⟩ := hp hy
      exact .inr rfl
  | none =>
      cases y with
      | nil =>
          rw [Passage.deleteAll_nil] at h
          cases h
      | cons d y =>
          rw [Passage.deleteAll_cons hy] at h
          exact .inl h

/-- A `<` that begins no code element begins none once passages behind it are deleted, unless that
puts a name together. -/
theorem codeElement_not_begun (hp : Marked p.after?) (hcut : Cuts p.after?)
    (hx : codeElement.after? ('<' :: x) = none)
    (h : ∀ name ∈ codeElementNames, ¬ Interrupts p name x) :
    codeElement.after? ('<' :: p.deleteAll x) = none := by
  refine Option.not_isSome_iff_eq_none.mp fun hsome => ?_
  obtain ⟨name, hname, v, t, hv, ht, hend, hword⟩ := codeElement_begins_iff.mp hsome
  obtain rfl := List.tail_eq_of_cons_eq hv
  rcases afterName?_deleteAll ht with ⟨y, hy, rfl⟩ | hi
  · have hbegins : (codeElement.after? ('<' :: x)).isSome := by
      refine codeElement_begins_iff.mpr ⟨name, hname, x, y, rfl, hy,
        (Passage.deleteAll_sublist hcut y).subset hend, ?_⟩
      obtain ⟨c, t, ht⟩ := List.exists_cons_of_ne_nil (List.ne_nil_of_mem hend)
      have hc : Text.isWord c = false := by
        rw [ht] at hword
        exact hword
      rcases head?_deleteAll hp c (by rw [ht]; rfl) with hhead | hhead
      · rw [hhead]
        exact hc
      · rw [hhead]
        decide
    rw [hx] at hbegins
    cases hbegins
  · exact h name hname hi

theorem absent_codeElement_deleteAll (hp : Marked p.after?) (hcut : Cuts p.after?)
    (hs : ∀ x, p.Reaches s ('<' :: x) → p.after? ('<' :: x) = none →
      codeElement.after? ('<' :: x) = none)
    (h : ∀ name ∈ codeElementNames, ¬ Joins p name s) :
    Absent codeElement.after? (p.deleteAll s) := by
  intro u hu
  refine Option.eq_none_iff_forall_ne_some.mpr fun r hr => ?_
  obtain ⟨c, v, rfl, -⟩ := marked_codeElement hr
  obtain ⟨x, hx, hkept, hv⟩ := Passage.exists_reached_of_suffix hu
  have hnone := codeElement_not_begun hp hcut (hs x hx hkept)
    fun name hname hi => h name hname ⟨x, hx, hkept, hi⟩
  rw [← hv] at hnone
  cases hnone.symm.trans hr

/-! ## Texts in which no name breaks off -/

/-- Whether `x` begins with some letters of `name`, but not with all, and a `<` behind them. -/
def breaksOff : List Char → List Char → Bool
  | [], _ | _ :: _, [] => false
  | l :: name, c :: x => c = '<' || sameLetter l c && breaksOff name x

/-- Behind no `<` in `s` a name of a code element breaks off at another `<`. -/
def Unbroken (s : List Char) : Prop :=
  ∀ x, '<' :: x <:+ s → ∀ name ∈ codeElementNames, breaksOff name x = false

instance : Decidable (Unbroken s) :=
  decidable_of_iff
    (∀ u ∈ s.tails, u.head? = some '<' →
      ∀ name ∈ codeElementNames, breaksOff name u.tail = false) <| by
    simp only [List.mem_tails, Unbroken]
    refine ⟨fun h x hx => h _ hx rfl, fun h u hu hlt => ?_⟩
    obtain ⟨x, rfl⟩ := List.head?_eq_some_iff.mp hlt
    exact h x hu

theorem breaksOff_of_interrupts (hp : Marked p.after?) (h : Interrupts p name x) :
    breaksOff name x = true := by
  obtain ⟨l₁, l₂, y, z, rfl, hne, hy, hz, -⟩ := h
  obtain ⟨d, v, rfl, -⟩ := hp hz
  induction l₁ generalizing x with
  | nil =>
      obtain rfl := Option.some.inj hy
      obtain ⟨l, l₂, rfl⟩ := List.exists_cons_of_ne_nil hne
      rfl
  | cons l l₁ ih =>
      cases x with
      | nil => cases hy
      | cons c x =>
          rw [afterName?] at hy
          split at hy
          · rename_i hc
            simp [breaksOff, hc, ih hy]
          · cases hy

/-- A name that breaks off once passages are deleted has done so before. -/
theorem breaksOff_of_deleteAll (hp : Marked p.after?)
    (h : breaksOff name (p.deleteAll x) = true) : breaksOff name x = true := by
  induction name generalizing x with
  | nil => cases h
  | cons l name ih =>
      cases hx : p.after? x with
      | some z =>
          obtain ⟨d, v, rfl, -⟩ := hp hx
          rfl
      | none =>
          cases x with
          | nil => rwa [Passage.deleteAll_nil] at h
          | cons c x =>
              rw [Passage.deleteAll_cons hx] at h
              simp only [breaksOff, Bool.or_eq_true, Bool.and_eq_true] at h ⊢
              exact h.imp_right fun h => ⟨h.1, ih h.2⟩

namespace Unbroken

theorem deleteAll (h : Unbroken s) (hp : Marked p.after?) (hcut : Cuts p.after?) :
    Unbroken (p.deleteAll s) := by
  intro v hv name hname
  obtain ⟨x, hx, -, rfl⟩ := Passage.exists_reached_of_suffix hv
  refine Bool.eq_false_iff.mpr fun hbreaks => ?_
  have := h x (hx.suffix hcut) name hname
  rw [breaksOff_of_deleteAll hp hbreaks] at this
  cases this

theorem not_joins (h : Unbroken s) (hp : Marked p.after?) (hcut : Cuts p.after?)
    (hname : name ∈ codeElementNames) : ¬ Joins p name s := by
  rintro ⟨x, hx, -, hi⟩
  have := h x (hx.suffix hcut) name hname
  rw [breaksOff_of_interrupts hp hi] at this
  cases this

/-- In a text in which no name breaks off no deletion puts one together. -/
theorem not_joined (h : Unbroken s) (hname : name ∈ codeElementNames) :
    ¬ Joins codeElement name s ∧ ¬ Joins comment name (codeElement.deleteAll s) :=
  ⟨h.not_joins marked_codeElement cuts_codeElement hname,
    (h.deleteAll marked_codeElement cuts_codeElement).not_joins marked_comment cuts_comment hname⟩

end Unbroken

/-! ## What is left -/

/-- Among what is left without code elements and comments there is a code element only if a name has
been put together, by the deletion of code elements or by that of comments. -/
theorem codeElement_absent (s : List Char)
    (h : ∀ name ∈ codeElementNames,
      ¬ Joins codeElement name s ∧ ¬ Joins comment name (codeElement.deleteAll s)) :
    Absent codeElement.after? (comment.deleteAll (codeElement.deleteAll s)) := by
  have first : Absent codeElement.after? (codeElement.deleteAll s) :=
    absent_codeElement_deleteAll marked_codeElement cuts_codeElement (fun _ _ hkept => hkept)
      fun name hname => (h name hname).1
  exact absent_codeElement_deleteAll marked_comment cuts_comment
    (fun _ hx _ => first _ (hx.suffix cuts_comment)) fun name hname => (h name hname).2

theorem codeElement_absent_unbroken :
    let s := "x < <scr ipt><script>a</script><!-- b --><sty le>c".toList
    (∀ name ∈ codeElementNames,
        ¬ Joins codeElement name s ∧ ¬ Joins comment name (codeElement.deleteAll s)) ∧
      Absent codeElement.after? (comment.deleteAll (codeElement.deleteAll s)) := by
  intro s
  have h : Unbroken s := by decide
  exact ⟨fun _ hname => h.not_joined hname, codeElement_absent s fun _ hname => h.not_joined hname⟩

/-- An element within the name of another one: once it is deleted there is a new one, whose body is
left as text. -/
theorem codeElement_assembled :
    ¬ Absent codeElement.after? (comment.deleteAll (codeElement.deleteAll
        "<scr<script></script>ipt>alert(1)</script>z".toList)) ∧
      sanitize "<scr<script></script>ipt>alert(1)</script>z" = "alert(1)z" := by
  decide +kernel

end Codewright.Markup
