import Codewright.Markup.Element
import Codewright.Proofs.Markup.Deletion

/-!
# Elements, comments and tags

Where the three kinds of passage begin and what they leave. Each begins with `<` and one of a few
characters. A code element begins where `<` has one of the names behind it that ends there, and a
`>` comes at some time. With a closing tag at hand it ends there, whatever its body is.
-/

namespace Codewright.Markup

open Text (isBlank isWord trimLeft)

variable {name s t x r : List Char} {c d : Char}

/-! ## Names -/

/-- A name that `d` is no letter of is found before `d` or not at all. -/
theorem afterName?_append_cons (h : ∀ l ∈ name, sameLetter l d = false) (x t : List Char) :
    afterName? name (x ++ d :: t) = (afterName? name x).map (· ++ d :: t) := by
  induction name generalizing x with
  | nil => rfl
  | cons l name ih =>
      cases x with
      | nil => simp [afterName?, h l List.mem_cons_self]
      | cons c x =>
          simp only [List.cons_append, afterName?]
          split
          · exact ih (fun l hl => h l (List.mem_cons_of_mem _ hl)) x
          · rfl

theorem afterName?_append (h : afterName? name x = some r) (t : List Char) :
    afterName? name (x ++ t) = some (r ++ t) := by
  induction name generalizing x with
  | nil =>
      obtain rfl := Option.some.inj h
      rfl
  | cons l name ih =>
      cases x with
      | nil => cases h
      | cons c x =>
          simp only [afterName?] at h
          simp only [List.cons_append, afterName?]
          split at h
          · rename_i hl
            rw [if_pos hl]
            exact ih h
          · cases h

theorem cuts_afterName? (name : List Char) : Cuts (afterName? name) := by
  intro s r h
  fun_induction afterName? name s with
  | case1 s =>
      obtain rfl := Option.some.inj h
      exact List.suffix_rfl
  | case2 => cases h
  | case3 l name c s _ ih => exact (ih h).trans (List.suffix_cons c s)
  | case4 => cases h

/-- The letter of a name that `c` can stand for. -/
def letterOf (c : Char) : Char :=
  if c = 'ſ' then 's' else if c = '\u212a' then 'k' else c.toLower

/-- No character stands for two letters of the names. -/
theorem letterOf_of_sameLetter (hl : ∃ name ∈ codeElementNames, c ∈ name)
    (h : sameLetter c d = true) : letterOf d = c := by
  obtain ⟨name, hname, hc⟩ := hl
  have letters : ∀ name ∈ codeElementNames,
      name.all (fun l => letterOf l = l ∧ letterOf l.toUpper = l) = true := by decide
  obtain ⟨hlower, hupper⟩ := by simpa using List.all_eq_true.mp (letters name hname) c hc
  simp only [sameLetter, Bool.or_eq_true, Bool.and_eq_true, decide_eq_true_eq] at h
  rcases h with ((rfl | rfl) | ⟨rfl, rfl⟩) | ⟨rfl, rfl⟩
  · exact hlower
  · exact hupper
  · rfl
  · rfl

/-- A text that begins with a name spells its letters. -/
theorem prefix_of_afterName? (hname : ∀ l ∈ name, ∃ name ∈ codeElementNames, l ∈ name)
    (h : afterName? name s = some r) : name <+: s.map letterOf := by
  fun_induction afterName? name s with
  | case1 => exact List.nil_prefix
  | case2 => cases h
  | case3 l name c s hc ih =>
      rw [List.map_cons, letterOf_of_sameLetter (hname l List.mem_cons_self) hc]
      exact (List.prefix_cons_inj l).mpr
        (ih (fun l hl => hname l (List.mem_cons_of_mem _ hl)) h)
  | case4 => cases h

/-- A text begins with one of the names at most. -/
theorem eq_of_afterName? {name' r' : List Char} (hname : name ∈ codeElementNames)
    (hname' : name' ∈ codeElementNames) (h : afterName? name s = some r)
    (h' : afterName? name' s = some r') : name = name' := by
  have apart : ∀ a ∈ codeElementNames, ∀ b ∈ codeElementNames, a <+: b → a = b := by decide
  have hp := prefix_of_afterName? (fun l hl => ⟨name, hname, hl⟩) h
  have hp' := prefix_of_afterName? (fun l hl => ⟨name', hname', hl⟩) h'
  rcases List.prefix_or_prefix_of_prefix hp hp' with hle | hle
  · exact apart _ hname _ hname' hle
  · exact (apart _ hname' _ hname hle).symm

theorem sameLetter_bracket (hname : name ∈ codeElementNames) {l : Char} (hl : l ∈ name) :
    sameLetter l '<' = false ∧ sameLetter l '>' = false := by
  have letters : ∀ name ∈ codeElementNames,
      name.all (fun l => sameLetter l '<' = false ∧ sameLetter l '>' = false) = true := by decide
  simpa using List.all_eq_true.mp (letters name hname) l hl

/-! ## Opening tags -/

theorem dropWhile_up_to (h : '>' ∉ x) : (x ++ '>' :: t).dropWhile (· ≠ '>') = '>' :: t := by
  rw [List.dropWhile_append_of_pos (fun c hc => by simpa using fun hc' : c = '>' => h (hc' ▸ hc))]
  rfl

/-- The name of an opening tag must end, and the tag goes up to the first `>`. -/
theorem afterOpeningTag?_append (h : '>' ∉ x) :
    afterOpeningTag? (x ++ '>' :: t) = if x.head?.any isWord then none else some t := by
  cases x with
  | nil => rfl
  | cons c x =>
      rw [List.cons_append, afterOpeningTag?, ← List.cons_append, dropWhile_up_to h]
      rfl

theorem afterOpeningTag?_eq_none (h : '>' ∉ s) : afterOpeningTag? s = none := by
  fun_cases afterOpeningTag? s with
  | case1 => rfl
  | case2 => rfl
  | case3 c s hw hd => rw [hd]
  | case4 c s hw d r hd =>
      have hmem : d ∈ (c :: s).dropWhile (· ≠ '>') := by rw [hd]; exact List.mem_cons_self
      have hstop := List.head?_dropWhile_not (· ≠ '>') (c :: s)
      rw [hd] at hstop
      obtain rfl : d = '>' := by simpa using hstop
      exact absurd ((List.dropWhile_sublist _).subset hmem) h

theorem isSome_afterOpeningTag? :
    (afterOpeningTag? s).isSome ↔ '>' ∈ s ∧ s.head?.any isWord = false := by
  by_cases hs : '>' ∈ s
  · obtain ⟨x, t, rfl, hx⟩ := List.eq_append_cons_of_mem hs
    rw [afterOpeningTag?_append hx]
    cases x with
    | nil => simp [show isWord '>' = false by decide]
    | cons c x => cases hw : isWord c <;> simp [hw]
  · simp [afterOpeningTag?_eq_none hs, hs]

theorem cuts_afterOpeningTag? : Cuts afterOpeningTag? := by
  intro s r h
  by_cases hs : '>' ∈ s
  · obtain ⟨x, t, rfl, hx⟩ := List.eq_append_cons_of_mem hs
    rw [afterOpeningTag?_append hx] at h
    split at h
    · cases h
    · obtain rfl := Option.some.inj h
      exact (List.suffix_cons '>' t).trans (List.suffix_append x _)
  · cases (afterOpeningTag?_eq_none hs).symm.trans h

/-! ## Closing tags -/

/-- A closing tag is `</`, the name, white space and `>`. -/
theorem afterClosingTag?_eq_some_iff :
    afterClosingTag? name s = some r ↔
      ∃ x y, s = '<' :: '/' :: x ∧ afterName? name x = some y ∧ trimLeft y = '>' :: r := by
  constructor
  · intro h
    unfold afterClosingTag? at h
    split at h
    · rename_i x
      split at h
      · cases h
      · rename_i y hy
        split at h
        · rename_i hr
          obtain rfl := Option.some.inj h
          exact ⟨x, y, rfl, hy, hr⟩
        · cases h
    · cases h
  · rintro ⟨x, y, rfl, hy, hr⟩
    simp only [afterClosingTag?, hy, hr]

theorem cuts_afterClosingTag? (name : List Char) : Cuts (afterClosingTag? name) := by
  intro s r h
  obtain ⟨x, y, rfl, hy, hr⟩ := afterClosingTag?_eq_some_iff.mp h
  have hr : '>' :: r <:+ y := hr ▸ List.dropWhile_suffix isBlank
  exact (List.suffix_cons '>' r).trans (hr.trans ((cuts_afterName? name hy).trans
    (List.suffix_append ['<', '/'] x)))

/-- A closing tag does not go on over the `<` of something else. -/
theorem bare_afterClosingTag? (hname : name ∈ codeElementNames)
    (h : Absent (afterClosingTag? name) s) (t : List Char) :
    Bare (afterClosingTag? name) s ('<' :: t) := by
  refine bare_of_forall fun {c u r} hus hr => ?_
  obtain ⟨x, y, hx, hy, htrim⟩ := afterClosingTag?_eq_some_iff.mp hr
  cases u with
  | nil => cases hx
  | cons d x' =>
      cases hx
      change afterName? name (x' ++ '<' :: t) = some y at hy
      rw [afterName?_append_cons (fun l hl => (sameLetter_bracket hname hl).1)] at hy
      obtain ⟨y', hy', rfl⟩ := Option.map_eq_some_iff.mp hy
      rw [trimLeft, List.dropWhile_append] at htrim
      split at htrim
      · cases htrim
      · -- the white space ends before that `<`, at a `>` that closes the tag
        rename_i hne
        cases hr' : trimLeft y' with
        | nil =>
            rw [trimLeft] at hr'
            exact hne (by rw [hr']; rfl)
        | cons c r' =>
            rw [← trimLeft, hr'] at htrim
            obtain ⟨rfl, -⟩ := List.cons.inj htrim
            have := afterClosingTag?_eq_some_iff.mpr ⟨x', y', rfl, hy', hr'⟩
            cases (h _ hus).symm.trans this

/-! ## Code elements -/

theorem afterElement?_eq_some_iff :
    afterElement? name s = some r ↔
      ∃ x y b, s = '<' :: x ∧ afterName? name x = some y ∧ afterOpeningTag? y = some b ∧
        r = afterFirst (afterClosingTag? name) b := by
  constructor
  · intro h
    unfold afterElement? at h
    split at h
    · rename_i x
      split at h
      · cases h
      · rename_i y hy
        obtain ⟨b, hb, rfl⟩ := Option.map_eq_some_iff.mp h
        exact ⟨x, y, b, rfl, hy, hb, rfl⟩
    · cases h
  · rintro ⟨x, y, b, rfl, hy, hb, rfl⟩
    simp only [afterElement?, hy, hb, Option.map_some]

/-- A code element is that of the name it begins with. -/
theorem codeElement_after?_eq_some_iff :
    codeElement.after? s = some r ↔
      ∃ name ∈ codeElementNames, ∃ x y b, s = '<' :: x ∧ afterName? name x = some y ∧
        afterOpeningTag? y = some b ∧ r = afterFirst (afterClosingTag? name) b := by
  constructor
  · intro h
    obtain ⟨name, hname, hr⟩ := List.exists_of_findSome?_eq_some h
    exact ⟨name, hname, afterElement?_eq_some_iff.mp hr⟩
  · rintro ⟨name, hname, x, y, b, rfl, hy, hb, rfl⟩
    have hfound : (codeElement.after? ('<' :: x)).isSome :=
      List.findSome?_isSome_iff.mpr ⟨name, hname, Option.isSome_iff_exists.mpr
        ⟨_, afterElement?_eq_some_iff.mpr ⟨x, y, b, rfl, hy, hb, rfl⟩⟩⟩
    obtain ⟨r, hr⟩ := Option.isSome_iff_exists.mp hfound
    obtain ⟨name', hname', hr'⟩ := List.exists_of_findSome?_eq_some hr
    obtain ⟨x', y', b', hx, hy', hb', rfl⟩ := afterElement?_eq_some_iff.mp hr'
    obtain rfl := List.tail_eq_of_cons_eq hx
    obtain rfl := eq_of_afterName? hname hname' hy hy'
    obtain rfl := Option.some.inj (hy.symm.trans hy')
    obtain rfl := Option.some.inj (hb.symm.trans hb')
    exact hr

/-- A code element begins where a name stands behind `<` and ends there, if its tag is closed. -/
theorem codeElement_begins_iff :
    (codeElement.after? s).isSome ↔
      ∃ name ∈ codeElementNames, ∃ x y, s = '<' :: x ∧ afterName? name x = some y ∧ '>' ∈ y ∧
        y.head?.any isWord = false := by
  constructor
  · intro h
    obtain ⟨r, hr⟩ := Option.isSome_iff_exists.mp h
    obtain ⟨name, hname, x, y, b, hx, hy, hb, -⟩ := codeElement_after?_eq_some_iff.mp hr
    exact ⟨name, hname, x, y, hx, hy,
      isSome_afterOpeningTag?.mp (Option.isSome_iff_exists.mpr ⟨b, hb⟩)⟩
  · rintro ⟨name, hname, x, y, hx, hy, hopen⟩
    obtain ⟨b, hb⟩ := Option.isSome_iff_exists.mp (isSome_afterOpeningTag?.mpr hopen)
    exact Option.isSome_iff_exists.mpr
      ⟨_, codeElement_after?_eq_some_iff.mpr ⟨name, hname, x, y, b, hx, hy, hb, rfl⟩⟩

/-! ## What passages have in common -/

/-- The characters that can follow the `<` of a passage. -/
def opensMarkup (c : Char) : Bool :=
  c.isAlpha || c = '/' || c = '!' || c = '?' || c = 'ſ'

/-- What `read` recognises begins with `<` and a character that can follow it. -/
def Marked (read : List Char → Option (List Char)) : Prop :=
  ∀ {s r}, read s = some r → ∃ c x, s = '<' :: c :: x ∧ opensMarkup c = true

/-- No `<` in `s` begins a passage when `t` follows: what is behind it cannot follow it there. -/
def Loose (s t : List Char) : Prop :=
  ∀ x, '<' :: x <:+ s → (x ++ t).head?.any opensMarkup = false

instance : Decidable (Loose s t) :=
  decidable_of_iff
    (∀ u ∈ s.tails, u.head? = some '<' → (u.tail ++ t).head?.any opensMarkup = false) <| by
    simp only [List.mem_tails, Loose]
    refine ⟨fun h x hx => h _ hx rfl, fun h u hu hlt => ?_⟩
    obtain ⟨x, rfl⟩ := List.head?_eq_some_iff.mp hlt
    exact h x hu

theorem loose_of_not_mem (h : '<' ∉ s) (t : List Char) : Loose s t :=
  fun _ hx => absurd (hx.subset List.mem_cons_self) h

theorem Marked.bare {read : List Char → Option (List Char)} (h : Marked read) (hs : Loose s t) :
    Bare read s t := by
  refine bare_of_forall fun {d u r} hus hr => ?_
  obtain ⟨c, x, hx, hc⟩ := h hr
  obtain ⟨rfl, hux⟩ := List.cons.inj hx
  have hloose := hs u hus
  rw [hux] at hloose
  cases hc.symm.trans hloose

theorem marked_codeElement : Marked codeElement.after? := by
  intro s r h
  obtain ⟨name, hname, x, y, b, rfl, hy, -⟩ := codeElement_after?_eq_some_iff.mp h
  have heads : ∀ name ∈ codeElementNames,
      name.head?.any (fun l => opensMarkup l ∧ opensMarkup l.toUpper ∧ l ≠ 'k') = true := by decide
  have hhead := heads name hname
  fun_cases afterName? name x with
  | case1 => cases hhead
  | case2 => cases hy
  | case3 l name c x hc =>
      refine ⟨c, x, rfl, ?_⟩
      obtain ⟨hlower, hupper, hk⟩ := by simpa using hhead
      simp only [sameLetter, Bool.or_eq_true, Bool.and_eq_true, decide_eq_true_eq] at hc
      rcases hc with ((rfl | rfl) | ⟨-, rfl⟩) | ⟨hk', -⟩
      · exact hlower
      · exact hupper
      · decide
      · exact absurd hk' hk
  | case4 l name c x hc =>
      rw [afterName?, if_neg hc] at hy
      cases hy

theorem cuts_codeElement : Cuts codeElement.after? := by
  intro s r h
  obtain ⟨name, -, x, y, b, rfl, hy, hb, rfl⟩ := codeElement_after?_eq_some_iff.mp h
  exact (afterFirst_suffix (cuts_afterClosingTag? name) b).trans ((cuts_afterOpeningTag? hb).trans
    ((cuts_afterName? name hy).trans (List.suffix_cons '<' x)))

theorem comment_after?_eq_some_iff :
    comment.after? s = some r ↔
      ∃ x, s = '<' :: '!' :: '-' :: '-' :: x ∧ r = afterFirst afterCommentEnd? x := by
  change afterComment? s = some r ↔ _
  constructor
  · intro h
    unfold afterComment? at h
    split at h
    · rename_i x
      exact ⟨x, rfl, (Option.some.inj h).symm⟩
    · cases h
  · rintro ⟨x, rfl, rfl⟩
    rfl

theorem marked_comment : Marked comment.after? := by
  intro s r h
  obtain ⟨x, rfl, -⟩ := comment_after?_eq_some_iff.mp h
  exact ⟨'!', '-' :: '-' :: x, rfl, rfl⟩

theorem cuts_comment : Cuts comment.after? := by
  intro s r h
  obtain ⟨x, rfl, rfl⟩ := comment_after?_eq_some_iff.mp h
  have hend : Cuts afterCommentEnd? := by
    intro s r h
    unfold afterCommentEnd? at h
    split at h
    · obtain rfl := Option.some.inj h
      exact List.suffix_append ['-', '-', '>'] _
    · cases h
  exact (afterFirst_suffix hend x).trans (List.suffix_append ['<', '!', '-', '-'] x)

/-- A tag is `<`, perhaps a slash, a character that starts tags, and all up to the first `>`. -/
theorem tag_after?_eq_some_iff :
    tag.after? s = some r ↔
      ∃ c x, startsTag c = true ∧ (s = '<' :: c :: x ∨ s = '<' :: '/' :: c :: x) ∧
        r = afterAngle x := by
  change afterTag? s = some r ↔ _
  constructor
  · intro h
    unfold afterTag? at h
    split at h
    · rename_i c x
      split at h
      · rename_i hc
        exact ⟨c, x, hc, .inr rfl, (Option.some.inj h).symm⟩
      · cases h
    · rename_i c x _
      split at h
      · rename_i hc
        exact ⟨c, x, hc, .inl rfl, (Option.some.inj h).symm⟩
      · cases h
    · cases h
  · rintro ⟨c, x, hc, rfl | rfl, rfl⟩
    · rw [afterTag?]
      · rw [if_pos hc]
      · -- the slash of a closing tag does not start a tag
        rintro d y ⟨rfl, -⟩
        cases hc
    · rw [afterTag?, if_pos hc]

theorem afterAngle_suffix (s : List Char) : afterAngle s <:+ s :=
  (List.drop_suffix 1 _).trans (List.dropWhile_suffix _)

theorem cuts_tag : Cuts tag.after? := by
  intro s r h
  obtain ⟨c, x, -, rfl | rfl, rfl⟩ := tag_after?_eq_some_iff.mp h
  · exact (afterAngle_suffix x).trans (List.suffix_append ['<', c] x)
  · exact (afterAngle_suffix x).trans (List.suffix_append ['<', '/', c] x)

theorem marked_tag : Marked tag.after? := by
  intro s r h
  obtain ⟨c, x, hc, rfl | rfl, -⟩ := tag_after?_eq_some_iff.mp h
  · refine ⟨c, x, rfl, ?_⟩
    simp only [startsTag, Bool.or_eq_true] at hc
    rcases hc with (hc | hc) | hc <;> simp [opensMarkup, hc]
  · exact ⟨'/', c :: x, rfl, rfl⟩

end Codewright.Markup
