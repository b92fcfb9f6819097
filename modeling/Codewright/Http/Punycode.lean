import Codewright.Text.Blank

/-!
# Punycode

A label is written in ASCII as its ASCII characters, followed by numbers that say where to insert
the others, in increasing order. Each number is the distance from one insertion to the next, in
digits of base 36 whose range depends on the numbers before.
-/

namespace Codewright.Http.Punycode

/-- The base of the numbers. -/
def base : Nat := 36

/-- The first character that is inserted. -/
def firstInserted : Nat := 0x80

/-- Numbers are smaller than this. -/
def limit : Nat := 0x100000000

/-- The character for a digit. -/
def digitChar (d : Nat) : Char :=
  if d < 26 then Char.ofNat (0x61 + d) else Char.ofNat (0x30 + (d - 26))

/-- The digit that a character in lower case stands for. -/
def digit? (c : Char) : Option Nat :=
  if 'a' ≤ c ∧ c ≤ 'z' then some (c.toNat - 0x61)
  else if c.isDigit then some (c.toNat - 0x30 + 26)
  else none

/-- The digits from which on another digit follows, `k` digits from the start of a number. -/
def threshold (bias k : Nat) : Nat :=
  min 26 (max 1 (base * (k + 1) - bias))

theorem threshold_bounds (bias k : Nat) : 1 ≤ threshold bias k ∧ threshold bias k ≤ 26 := by
  unfold threshold
  omega

/-- The bias for a typical distance. -/
def biasFor (distance : Nat) : Nat :=
  if 455 < distance then base + biasFor (distance / 35)
  else base * distance / (distance + 38)
termination_by distance
decreasing_by exact Nat.div_lt_self (by omega) (by omega)

/-- The bias after a distance, given the number of characters up to there. -/
def nextBias (distance count : Nat) (isFirst : Bool) : Nat :=
  let distance := if isFirst then distance / 700 else distance / 2
  biasFor (distance + distance / count)

/-- The bias at the start. -/
def initialBias : Nat := 72

/-! ## Writing -/

/-- The digits of a number from the digit at place `k` on. -/
def digits (bias k n : Nat) : List Char :=
  let t := threshold bias k
  if n < t then [digitChar n]
  else digitChar (t + (n - t) % (base - t)) :: digits bias (k + 1) ((n - t) / (base - t))
termination_by n
decreasing_by
  have h := threshold_bounds bias k
  exact Nat.lt_of_le_of_lt (Nat.div_le_self _ _) (by omega)

/-- What has been written, and what the next number depends on. -/
structure Writing where
  output : List Char := []
  /-- The number of steps since the last insertion. -/
  distance : Nat := 0
  bias : Nat := initialBias
  /-- The number of characters that are in place. -/
  placed : Nat
  isFirst : Bool := true

/-- Writes down the insertion of a character, if `c` is that character, and takes a step. -/
def Writing.step (inserted : Nat) (w : Writing) (c : Char) : Writing :=
  if c.toNat < inserted then { w with distance := w.distance + 1 }
  else if c.toNat = inserted then
    { output := w.output ++ digits w.bias 0 w.distance
      distance := 0
      bias := nextBias w.distance (w.placed + 1) w.isFirst
      placed := w.placed + 1
      isFirst := false }
  else w

/-- Writes down the insertions of characters, given in increasing order, from `previous` on. -/
def insertions (label : List Char) : (inserted : List Nat) → (previous : Nat) → Writing → Writing
  | [], _, w => w
  | n :: more, previous, w =>
    let skipped := { w with distance := w.distance + (n - previous) * (w.placed + 1) }
    let w := label.foldl (Writing.step n) skipped
    insertions label more (n + 1) { w with distance := w.distance + 1 }

/-- Numbers in increasing order, each once. -/
def increasing (ns : List Nat) : List Nat :=
  (ns.mergeSort fun a b => a ≤ b).eraseDups

/-- A label in ASCII. -/
def encode (label : List Char) : List Char :=
  let plain := label.filter (·.toNat < firstInserted)
  let inserted := increasing ((label.map Char.toNat).filter (firstInserted ≤ ·))
  let w := insertions label inserted firstInserted { placed := plain.length }
  plain ++ (if plain.isEmpty then [] else ['-']) ++ w.output

/-! ## Reading -/

/-- Reads digits of a number whose value so far is `n`; `weight` is the value of the next digit.
None of the values may reach the limit. -/
def readNumber? (bias : Nat) : (k n weight : Nat) → List Char → Option (Nat × List Char)
  | _, _, _, [] => none
  | k, n, weight, c :: rest =>
    match digit? c with
    | none => none
    | some d =>
      let n := n + d * weight
      let t := threshold bias k
      if limit ≤ n then none
      else if d < t then some (n, rest)
      else if limit ≤ weight * (base - t) then none
      else readNumber? bias (k + 1) n (weight * (base - t)) rest

theorem length_of_readNumber {bias k n weight m : Nat} {cs rest : List Char}
    (h : readNumber? bias k n weight cs = some (m, rest)) : rest.length < cs.length := by
  induction cs generalizing k n weight with
  | nil => cases h
  | cons c cs ih =>
    simp only [readNumber?] at h
    split at h
    · cases h
    · split at h
      · cases h
      · split at h
        · cases h
          exact Nat.lt_succ_self _
        · split at h
          · cases h
          · exact Nat.lt_succ_of_lt (ih h)

/-- Inserts the characters that numbers stand for; the last one was `last` and went before
`place`. -/
def insertAll? (bias last place : Nat) (label digits : List Char) : Option (List Char) :=
  match digits with
  | [] => some label
  | c :: more =>
    match _h : readNumber? bias 0 place 1 (c :: more) with
    | none => none
    | some (n, rest) =>
      let count := label.length + 1
      let inserted := last + n / count
      if Nat.isValidChar inserted then
        insertAll? (nextBias (n - place) count (label.all (·.toNat < firstInserted))) inserted
          (n % count + 1) (label.insertIdx (n % count) (Char.ofNat inserted)) rest
      else none
termination_by digits.length
decreasing_by exact length_of_readNumber _h

/-- The plain characters before the last dash, and what follows it. -/
def splitAtLastDash (cs : List Char) : List Char × List Char :=
  match (Text.pieces (· = '-') cs).reverse with
  | digits :: piece :: pieces =>
    (List.intercalate ['-'] (piece :: pieces).reverse, digits)
  | _ => ([], cs)

/-- Reads a label in lower case. -/
def decode? (cs : List Char) : Option (List Char) :=
  let (plain, digits) := splitAtLastDash cs
  -- a dash at the start has no plain characters before it, and is no digit either
  if cs.head? = some '-' ∧ plain = [] then none
  else if plain.all (·.toNat < firstInserted) then
    insertAll? initialBias firstInserted 0 plain digits
  else none

end Codewright.Http.Punycode
