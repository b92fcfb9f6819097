/-!
# Passages of a text

A passage is a stretch of text recognised from its first character on. `deleteAll` removes every
passage of one kind, scanning from the left and going on behind each one it finds.
-/

namespace Codewright.Markup

/-- A kind of passage: for a text that begins with one, the text that follows it. -/
structure Passage where
  after? : List Char → Option (List Char)
  shorter : ∀ {s r : List Char}, after? s = some r → r.length < s.length

namespace Passage

/-- The text without the passages of kind `p`. -/
def deleteAll (p : Passage) (s : List Char) : List Char :=
  match _h : p.after? s with
  | some r => deleteAll p r
  | none =>
    match s with
    | [] => []
    | c :: rest => c :: deleteAll p rest
termination_by s.length
decreasing_by
  · exact p.shorter _h
  · exact Nat.lt_succ_self _

end Passage

/-- The text behind the first place where `close` succeeds, or nothing if there is none. -/
def afterFirst (close : List Char → Option (List Char)) (s : List Char) : List Char :=
  match close s with
  | some r => r
  | none =>
    match s with
    | [] => []
    | _ :: rest => afterFirst close rest

/-- A text behind a close that never grows is no longer than the text. -/
theorem length_afterFirst_le (close : List Char → Option (List Char))
    (h : ∀ {s r}, close s = some r → r.length ≤ s.length) (s : List Char) :
    (afterFirst close s).length ≤ s.length := by
  induction s with
  | nil =>
    unfold afterFirst
    cases hc : close [] with
    | none => simp
    | some r => exact h hc
  | cons c rest ih =>
    unfold afterFirst
    cases hc : close (c :: rest) with
    | none => exact Nat.le_succ_of_le ih
    | some r => exact h hc

/-- What follows the first `>`, or nothing if there is none. -/
def afterAngle (s : List Char) : List Char :=
  (s.dropWhile (· ≠ '>')).drop 1

theorem length_afterAngle_le (s : List Char) : (afterAngle s).length ≤ s.length := by
  unfold afterAngle
  have := (List.dropWhile_sublist (p := fun c : Char => decide (c ≠ '>')) (l := s)).length_le
  simp only [List.length_drop]
  omega

end Codewright.Markup
