import Codewright.Markup.Sanitize
import Codewright.Proofs.Markup.Element

/-!
# Bodies of code elements

A code element that is closed goes as a whole: what is left of a text does not tell what the body
was, and there is nothing left of the element but that the texts around it have come together.
-/

namespace Codewright.Markup

/-- Strips `<` and the name of a code element directly behind it. -/
def afterNamed? : List Char → Option (List Char)
  | '<' :: s => codeElementNames.findSome? (afterName? · s)
  | _ => none

/-- In front of a `<`, a code element begins only where a name stands behind another one. -/
theorem bare_codeElement {p : List Char} (h : Absent afterNamed? p) (t : List Char) :
    Bare codeElement.after? p ('<' :: t) := by
  refine bare_of_forall fun {c u r} hup hr => ?_
  obtain ⟨name, hname, x, y, b, hx, hy, -⟩ := codeElement_after?_eq_some_iff.mp hr
  obtain ⟨rfl, rfl⟩ := List.cons.inj hx
  rw [afterName?_append_cons (fun l hl => (sameLetter_bracket hname hl).1)] at hy
  obtain ⟨y', hy', -⟩ := Option.map_eq_some_iff.mp hy
  have hnone := List.findSome?_eq_none_iff.mp (h _ hup) name hname
  cases hnone.symm.trans hy'

section

variable {name n a b : List Char}

/-- A code element with its closing tag. -/
def element (n a b : List Char) : List Char :=
  '<' :: (n ++ (a ++ '>' :: (b ++ '<' :: '/' :: (n ++ ['>']))))

/-- A code element ends at its first closing tag. -/
theorem codeElement_after?_element (hname : name ∈ codeElementNames)
    (hn : afterName? name n = some []) (ha : '>' ∉ a) (hw : a.head?.any Text.isWord = false)
    (hb : Absent (afterClosingTag? name) b) (s : List Char) :
    codeElement.after? (element n a b ++ s) = some s := by
  have hclose : afterClosingTag? name ('<' :: '/' :: (n ++ '>' :: s)) = some s :=
    afterClosingTag?_eq_some_iff.mpr ⟨_, '>' :: s, rfl, afterName?_append hn _, rfl⟩
  have hbody : afterFirst (afterClosingTag? name) (b ++ '<' :: '/' :: (n ++ '>' :: s)) = s := by
    rw [afterFirst_append (bare_afterClosingTag? hname hb _), afterFirst_of_eq_some hclose]
  have hopen : afterOpeningTag? (a ++ '>' :: (b ++ '<' :: '/' :: (n ++ '>' :: s))) =
      some (b ++ '<' :: '/' :: (n ++ '>' :: s)) := by
    rw [afterOpeningTag?_append ha, hw]
    rfl
  refine codeElement_after?_eq_some_iff.mpr
    ⟨name, hname, _, _, _, ?_, afterName?_append hn _, hopen, hbody.symm⟩
  simp [element]

theorem deleteAll_element (hname : name ∈ codeElementNames) (hn : afterName? name n = some [])
    (ha : '>' ∉ a) (hw : a.head?.any Text.isWord = false)
    (hb : Absent (afterClosingTag? name) b) {p : List Char} (hp : Absent afterNamed? p)
    (s : List Char) :
    codeElement.deleteAll (p ++ (element n a b ++ s)) = p ++ codeElement.deleteAll s := by
  rw [Passage.deleteAll_append (t := element n a b ++ s) (bare_codeElement hp _),
    Passage.deleteAll_of_eq_some (codeElement_after?_element hname hn ha hw hb s)]

end

/-- Whatever the body of a closed code element is, the rest of the text is left as if there were
another one, or, if no `<` is in front of it, as if there were no element. -/
theorem sanitize_element {name : List Char} (hname : name ∈ codeElementNames)
    {n a b₁ b₂ : String} (hn : afterName? name n.toList = some []) (ha : '>' ∉ a.toList)
    (hw : a.toList.head?.any Text.isWord = false)
    (h₁ : Absent (afterClosingTag? name) b₁.toList)
    (h₂ : Absent (afterClosingTag? name) b₂.toList)
    {p : String} (hp : Absent afterNamed? p.toList) (s : String) :
    sanitize (p ++ "<" ++ n ++ a ++ ">" ++ b₁ ++ "</" ++ n ++ ">" ++ s) =
        sanitize (p ++ "<" ++ n ++ a ++ ">" ++ b₂ ++ "</" ++ n ++ ">" ++ s) ∧
      ('<' ∉ p.toList →
        sanitize (p ++ "<" ++ n ++ a ++ ">" ++ b₁ ++ "</" ++ n ++ ">" ++ s) =
          sanitize (p ++ s)) := by
  have deleted : ∀ b : String, Absent (afterClosingTag? name) b.toList →
      codeElement.deleteAll
          (p ++ "<" ++ n ++ a ++ ">" ++ b ++ "</" ++ n ++ ">" ++ s : String).toList =
        p.toList ++ codeElement.deleteAll s.toList := by
    intro b hb
    rw [← deleteAll_element hname hn ha hw hb hp s.toList]
    simp [element]
  refine ⟨?_, fun hlt => ?_⟩
  · rw [sanitize, sanitize, strip, strip, deleted b₁ h₁, deleted b₂ h₂]
  · have hjoined := Passage.deleteAll_append (t := s.toList)
      (marked_codeElement.bare (loose_of_not_mem hlt s.toList))
    rw [sanitize, sanitize, strip, strip, deleted b₁ h₁, String.toList_append, hjoined]

theorem sanitize_element_letterCases :
    (Absent afterNamed? "1 < 2 <!-- ".toList ∧
        Absent (afterClosingTag? "script".toList) "if (a</b) </SCRIPT <".toList) ∧
      sanitize ("1 < 2 <!-- " ++ "<" ++ "ſcRipt" ++ " src=x" ++ ">" ++ "if (a</b) </SCRIPT <" ++
          "</" ++ "ſcRipt" ++ ">" ++ "--> done") =
        sanitize ("1 < 2 <!-- " ++ "<" ++ "ſcRipt" ++ " src=x" ++ ">" ++ "" ++
          "</" ++ "ſcRipt" ++ ">" ++ "--> done") ∧
      sanitize ("2 > 1 " ++ "<" ++ "ſcRipt" ++ " src=x" ++ ">" ++ "if (a</b) </SCRIPT <" ++
          "</" ++ "ſcRipt" ++ ">" ++ "--> done") = sanitize ("2 > 1 " ++ "--> done") := by
  have hp : Absent afterNamed? "1 < 2 <!-- ".toList := by decide
  have hb : Absent (afterClosingTag? "script".toList) "if (a</b) </SCRIPT <".toList := by decide
  have hempty : Absent (afterClosingTag? "script".toList) "".toList := by decide
  refine ⟨⟨hp, hb⟩, ?_, ?_⟩
  · exact (sanitize_element (by decide) (by decide) (by decide) (by decide) hb hempty hp _).1
  · exact (sanitize_element (by decide) (by decide) (by decide) (by decide) hb hempty
      (by decide) _).2 (by decide)

end Codewright.Markup
