import Codewright.Markup.Passage
import Codewright.Text.Blank
import Codewright.Text.WordChar

/-!
# Elements, comments and tags

The three kinds of passage that are not text: an element whose body is code rather than prose,
with everything up to its closing tag; a comment; and a single tag. Each runs to the end of the
text if it is not closed.
-/

namespace Codewright.Markup

/-- Whether `c` is the lower-case letter `l`, its capital, or a letter that folds to it. -/
def sameLetter (l c : Char) : Bool :=
  c = l || c = l.toUpper || (l = 's' && c = 'ſ') || (l = 'k' && c = '\u212a')

/-- Strips a lower-case name off the front of a text, in any letter case. -/
def afterName? : List Char → List Char → Option (List Char)
  | [], s => some s
  | _ :: _, [] => none
  | l :: name, c :: s => if sameLetter l c then afterName? name s else none

theorem length_of_afterName? : ∀ {name s r : List Char}, afterName? name s = some r →
    s.length = name.length + r.length
  | [], s, r, h => by simp only [afterName?, Option.some.injEq] at h; simp [h]
  | _ :: _, [], r, h => by simp [afterName?] at h
  | l :: name, c :: s, r, h => by
    simp only [afterName?] at h
    split at h
    · have := length_of_afterName? h
      simp only [List.length_cons]
      omega
    · cases h

/-- Strips a closing tag of `name`, which may have white space before its `>`. -/
def afterClosingTag? (name : List Char) : List Char → Option (List Char)
  | '<' :: '/' :: s =>
    match afterName? name s with
    | none => none
    | some r =>
      match Text.trimLeft r with
      | '>' :: rest => some rest
      | _ => none
  | _ => none

theorem length_of_afterClosingTag? {name s r : List Char} (h : afterClosingTag? name s = some r) :
    r.length ≤ s.length := by
  unfold afterClosingTag? at h
  split at h
  · split at h
    · cases h
    · rename_i t _ r' hr
      have h1 := length_of_afterName? hr
      split at h
      · rename_i rest ht
        have h2 : (Text.trimLeft r').length ≤ r'.length :=
          (List.dropWhile_sublist (p := Text.isBlank) (l := r')).length_le
        rw [ht] at h2
        simp only [Option.some.injEq] at h
        subst h
        simp only [List.length_cons] at h2 ⊢
        omega
      · cases h
  · cases h

/-- Strips the rest of an opening tag: the name must end here, and there must be a `>`. -/
def afterOpeningTag? (s : List Char) : Option (List Char) :=
  match s with
  | [] => none
  | c :: _ =>
    if Text.isWord c then none
    else
      match s.dropWhile (· ≠ '>') with
      | [] => none
      | _ :: r => some r

theorem length_of_afterOpeningTag? {s r : List Char} (h : afterOpeningTag? s = some r) :
    r.length ≤ s.length := by
  unfold afterOpeningTag? at h
  split at h
  · cases h
  · split at h
    · cases h
    · split at h
      · cases h
      · rename_i c t _ _ d r' hd
        have h2 := (List.dropWhile_sublist (p := fun c : Char => decide (c ≠ '>'))
          (l := c :: t)).length_le
        rw [hd] at h2
        simp only [Option.some.injEq] at h
        subst h
        simp only [List.length_cons] at h2 ⊢
        omega

/-- Strips an element called `name`: its opening tag, its body and its closing tag. -/
def afterElement? (name : List Char) : List Char → Option (List Char)
  | '<' :: s =>
    match afterName? name s with
    | none => none
    | some r => (afterOpeningTag? r).map (afterFirst (afterClosingTag? name))
  | _ => none

theorem length_of_afterElement? {name s r : List Char} (h : afterElement? name s = some r) :
    r.length < s.length := by
  unfold afterElement? at h
  split at h
  · split at h
    · cases h
    · rename_i t _ r' hr
      obtain ⟨b, hb, rfl⟩ := Option.map_eq_some_iff.1 h
      have h1 := length_of_afterName? hr
      have h2 := length_of_afterOpeningTag? hb
      have h3 := length_afterFirst_le (afterClosingTag? name)
        length_of_afterClosingTag? b
      simp only [List.length_cons]
      omega
  · cases h

/-- The elements whose body is code or markup rather than text. -/
def codeElementNames : List (List Char) :=
  ["script", "style", "textarea", "noscript", "iframe"].map String.toList

/-- An element whose body is not text. -/
def codeElement : Passage where
  after? s := codeElementNames.findSome? (afterElement? · s)
  shorter h := by
    obtain ⟨name, _, hn⟩ := List.exists_of_findSome?_eq_some h
    exact length_of_afterElement? hn

/-- Strips the end of a comment. -/
def afterCommentEnd? : List Char → Option (List Char)
  | '-' :: '-' :: '>' :: r => some r
  | _ => none

/-- Strips a comment. -/
def afterComment? : List Char → Option (List Char)
  | '<' :: '!' :: '-' :: '-' :: s => some (afterFirst afterCommentEnd? s)
  | _ => none

/-- A comment. -/
def comment : Passage where
  after? := afterComment?
  shorter {s r} h := by
    unfold afterComment? at h
    split at h
    · rename_i t
      simp only [Option.some.injEq] at h
      have := length_afterFirst_le afterCommentEnd? (by
        intro s r hc
        unfold afterCommentEnd? at hc
        split at hc
        · simp only [Option.some.injEq] at hc
          subst hc
          simp only [List.length_cons]
          omega
        · cases hc) t
      subst h
      simp only [List.length_cons]
      omega
    · cases h

/-- The characters that can follow the `<` or `</` of a tag. -/
def startsTag (c : Char) : Bool :=
  c.isAlpha || c = '!' || c = '?'

/-- Strips a tag. -/
def afterTag? : List Char → Option (List Char)
  | '<' :: '/' :: c :: s => if startsTag c then some (afterAngle s) else none
  | '<' :: c :: s => if startsTag c then some (afterAngle s) else none
  | _ => none

/-- A single tag: opening, closing or a declaration. -/
def tag : Passage where
  after? := afterTag?
  shorter {s r} h := by
    unfold afterTag? at h
    split at h
    · rename_i c t
      split at h
      · simp only [Option.some.injEq] at h
        have := length_afterAngle_le t
        subst h
        simp only [List.length_cons]
        omega
      · cases h
    · rename_i c t _
      split at h
      · simp only [Option.some.injEq] at h
        have := length_afterAngle_le t
        subst h
        simp only [List.length_cons]
        omega
      · cases h
    · cases h

end Codewright.Markup
