import Codewright.Text.Utf8

/-!
# Scanning JSON text

The parts of JSON text that have no structure of their own: white space, literals, strings and
numbers. A number or string is either read or skipped; skipping is more lenient, since what is
skipped need not have a meaning. Each scanner says at the first symbol it cannot use what is wrong.
-/

namespace Codewright.Json

open Text (Symbol)

/-- What is wrong with a JSON text. -/
inductive Fault where
  /-- A value of another kind than is wanted, or members that do not fit. -/
  | mismatch
  /-- Not JSON. -/
  | malformed
  /-- The text ends too early. -/
  | truncated
  deriving DecidableEq, Repr

/-- Whether a symbol separates tokens. -/
def isSpace (x : Symbol) : Bool :=
  x = some ' ' || x = some '\n' || x = some '\t' || x = some '\r'

/-- The text from its first token on. -/
def skipSpace (s : List Symbol) : List Symbol :=
  s.dropWhile isSpace

/-- What is wrong with a text that has not the expected symbol at its head. -/
def unexpected : List Symbol → Fault
  | [] => .truncated
  | _ :: _ => .malformed

/-- Strips the letters of a literal. -/
def skipLetters : List Char → List Symbol → Except Fault (List Symbol)
  | [], s => .ok s
  | _ :: _, [] => .error .truncated
  | c :: cs, x :: s => if x = some c then skipLetters cs s else .error .malformed

/-! ## Strings -/

/-- The value of a hexadecimal digit. -/
def hexValue? (x : Symbol) : Option Nat :=
  match x with
  | none => none
  | some c =>
    if c.isDigit then some (c.toNat - 0x30)
    else if 'a' ≤ c && c ≤ 'f' then some (c.toNat - 0x57)
    else if 'A' ≤ c && c ≤ 'F' then some (c.toNat - 0x37)
    else none

/-- The number of bytes a symbol stands for. -/
def symbolSize (x : Symbol) : Nat :=
  match x with
  | none => 1
  | some c => c.utf8Size

/-- Reads four hexadecimal digits; with fewer than four bytes left the text ends too early. -/
def readHex (s : List Symbol) : Except Fault (Nat × List Symbol) :=
  if (s.take 4).foldl (fun n x => n + symbolSize x) 0 < 4 then .error .truncated
  else
    match s with
    | a :: b :: c :: d :: r =>
      match hexValue? a, hexValue? b, hexValue? c, hexValue? d with
      | some a, some b, some c, some d => .ok (a * 0x1000 + b * 0x100 + c * 0x10 + d, r)
      | _, _, _, _ => .error .malformed
    | _ => .error .malformed

/-- The characters that stand behind a backslash, and what they mean. -/
def simpleEscape? (c : Char) : Option Char :=
  match c with
  | '"' => some '"'
  | '\\' => some '\\'
  | '/' => some '/'
  | 'b' => some '\x08'
  | 'f' => some '\x0c'
  | 'n' => some '\n'
  | 'r' => some '\r'
  | 't' => some '\t'
  | _ => none

/-- Reads the second half of a pair of escapes that form one character. -/
def readLowHalf (high : Nat) (s : List Symbol) : Except Fault (Char × List Symbol) :=
  match s with
  | some '\\' :: some 'u' :: r =>
    match readHex r with
    | .error f => .error f
    | .ok (low, r) =>
      if low < 0xDC00 || 0xDFFF < low then .error .malformed
      else .ok (Char.ofNat (0x10000 + (high - 0xD800) * 0x400 + (low - 0xDC00)), r)
  | [some '\\'] => .error .truncated
  | s => .error (unexpected s)

/-- Reads what follows a backslash. -/
def readEscape (s : List Symbol) : Except Fault (Char × List Symbol) :=
  match s with
  | some 'u' :: r =>
    match readHex r with
    | .error f => .error f
    | .ok (n, r) =>
      if 0xDC00 ≤ n && n ≤ 0xDFFF then .error .malformed
      else if 0xD800 ≤ n && n ≤ 0xDBFF then readLowHalf n r
      else .ok (Char.ofNat n, r)
  | some c :: r =>
    match simpleEscape? c with
    | some d => .ok (d, r)
    | none => .error .malformed
  | s => .error (unexpected s)

/-- Skips what follows a backslash; an escaped half of a pair may stand alone. -/
def skipEscape (s : List Symbol) : Except Fault (List Symbol) :=
  match s with
  | some 'u' :: r =>
    match readHex r with
    | .error f => .error f
    | .ok (_, r) => .ok r
  | some c :: r => if (simpleEscape? c).isSome then .ok r else .error .malformed
  | s => .error (unexpected s)

theorem length_of_readHex {s r : List Symbol} {n : Nat} (h : readHex s = .ok (n, r)) :
    r.length < s.length := by
  unfold readHex at h
  split at h
  · cases h
  · split at h
    · split at h
      · simp only [Except.ok.injEq, Prod.mk.injEq] at h
        obtain ⟨_, rfl⟩ := h
        simp only [List.length_cons]
        omega
      · cases h
    · cases h

theorem length_of_readLowHalf {high : Nat} {s r : List Symbol} {c : Char}
    (h : readLowHalf high s = .ok (c, r)) : r.length < s.length := by
  unfold readLowHalf at h
  split at h
  · split at h
    · cases h
    · rename_i hr
      have := length_of_readHex hr
      split at h
      · cases h
      · simp only [Except.ok.injEq, Prod.mk.injEq] at h
        obtain ⟨_, rfl⟩ := h
        simp only [List.length_cons]
        omega
  · cases h
  · cases h

theorem length_of_readEscape {s r : List Symbol} {c : Char} (h : readEscape s = .ok (c, r)) :
    r.length < s.length := by
  unfold readEscape at h
  split at h
  · split at h
    · cases h
    · rename_i hr
      have h1 := length_of_readHex hr
      split at h
      · cases h
      · split at h
        · have h2 := length_of_readLowHalf h
          simp only [List.length_cons]
          omega
        · simp only [Except.ok.injEq, Prod.mk.injEq] at h
          obtain ⟨_, rfl⟩ := h
          simp only [List.length_cons]
          omega
  · split at h
    · cases h
      simp
    · cases h
  · cases h

theorem length_of_skipEscape {s r : List Symbol} (h : skipEscape s = .ok r) :
    r.length < s.length := by
  unfold skipEscape at h
  split at h
  · split at h
    · cases h
    · rename_i hr
      have := length_of_readHex hr
      cases h
      simp only [List.length_cons]
      omega
  · split at h
    · cases h
      simp
    · cases h
  · cases h

/-- Reads a string up to its closing quote. -/
def readString (s : List Symbol) : Except Fault (List Char × List Symbol) :=
  match s with
  | [] => .error .truncated
  | some '"' :: r => .ok ([], r)
  | some '\\' :: r =>
    match _h : readEscape r with
    | .error f => .error f
    | .ok (c, r) =>
      match readString r with
      | .error f => .error f
      | .ok (cs, r) => .ok (c :: cs, r)
  | none :: _ => .error .malformed
  | some c :: r =>
    if c.toNat < 0x20 then .error .malformed
    else
      match readString r with
      | .error f => .error f
      | .ok (cs, r) => .ok (c :: cs, r)
termination_by s.length
decreasing_by
  · have := length_of_readEscape _h
    simp only [List.length_cons]
    omega
  · exact Nat.lt_succ_self _

/-- Skips a string up to its closing quote. -/
def skipString (s : List Symbol) : Except Fault (List Symbol) :=
  match s with
  | [] => .error .truncated
  | some '"' :: r => .ok r
  | some '\\' :: r =>
    match _h : skipEscape r with
    | .error f => .error f
    | .ok r => skipString r
  | none :: r => skipString r
  | some c :: r => if c.toNat < 0x20 then .error .malformed else skipString r
termination_by s.length
decreasing_by
  · have := length_of_skipEscape _h
    simp only [List.length_cons]
    omega
  · exact Nat.lt_succ_self _
  · exact Nat.lt_succ_self _

/-! ## Numbers -/

/-- Whether a symbol is a decimal digit. -/
def isDigit (x : Symbol) : Bool :=
  match x with
  | none => false
  | some c => c.isDigit

/-- The digits at the head of a text, and the rest. -/
def spanDigits (s : List Symbol) : List Symbol × List Symbol :=
  (s.takeWhile isDigit, s.dropWhile isDigit)

/-- Strips the integer part of a number: digits without a leading zero. -/
def readInteger (s : List Symbol) : Except Fault (List Symbol × List Symbol) :=
  match s with
  | some '0' :: r =>
    match r with
    | x :: _ => if isDigit x then .error .malformed else .ok ([some '0'], r)
    | [] => .ok ([some '0'], r)
  | s =>
    match spanDigits s with
    | ([], r) => .error (unexpected r)
    | (ds, r) => .ok (ds, r)

/-- Strips the fraction of a number, if it has one. -/
def readFraction (s : List Symbol) : Except Fault (List Symbol × List Symbol) :=
  match s with
  | some '.' :: r =>
    match spanDigits r with
    | ([], r) => .error (unexpected r)
    | (ds, r) => .ok (ds, r)
  | s => .ok ([], s)

/-- Strips the exponent of a number, if it has one; true for a negative one. -/
def readExponent (s : List Symbol) : Except Fault (Bool × List Symbol × List Symbol) :=
  let digits (neg : Bool) (r : List Symbol) :=
    match spanDigits r with
    | ([], r) => .error (unexpected r)
    | (ds, r) => .ok (neg, ds, r)
  match s with
  | some e :: r =>
    if e = 'e' || e = 'E' then
      match r with
      | some '+' :: r => digits false r
      | some '-' :: r => digits true r
      | r => digits false r
    else .ok (false, [], s)
  | s => .ok (false, [], s)

/-! ### Size -/

/-- The integers that the digits of a number are gathered in have 64 bits. -/
def maxSignificand : Nat := 0xFFFFFFFFFFFFFFFF

/-- Appends digits to a number as long as it does not exceed a limit. -/
def appendDigits (limit n : Nat) : List Symbol → Nat × List Symbol
  | [] => (n, [])
  | d :: ds =>
    let longer := 10 * n + (hexValue? d).getD 0
    if longer ≤ limit then appendDigits limit longer ds else (n, d :: ds)

/-- The first digits of a number, and the power of ten they are to be multiplied with. Of the digits
that do not fit any more those before the decimal point are counted, the others do not matter. -/
def significand (int frac : List Symbol) : Nat × Int :=
  let (whole, uncounted) := appendDigits maxSignificand 0 int
  let (n, dropped) := appendDigits maxSignificand whole frac
  (n, Int.ofNat uncounted.length - Int.ofNat (frac.length - dropped.length))

/-- The nearest number that has at most 53 binary digits before its zeros; halfway between two, the
one whose last digit is even. -/
def roundToDouble (n : Nat) : Nat :=
  let unit := Nat.pow 2 (n.log2 - 52)
  let q := n / unit
  let twice := 2 * (n % unit)
  (if unit < twice || (twice = unit && q % 2 = 1) then q + 1 else q) * unit

/-- The least number that is too large for a double: half a unit above the largest one. -/
def doubleLimit : Nat := Nat.pow 2 1024 - Nat.pow 2 970

/-- Whether `n` times a power of ten is too large for a double. Both factors are doubles before they
are multiplied, and so the power must be one. -/
def exceedsDouble (n : Nat) (exponent : Int) : Bool :=
  match exponent with
  | .negSucc _ => false
  | .ofNat e =>
    n ≠ 0 && (308 < e || doubleLimit ≤ roundToDouble n * roundToDouble (Nat.pow 10 e))

/-- The largest exponent that is taken as it is. -/
def maxExponent : Nat := 0x7FFFFFFF

/-- Whether the number with these digits is too large for a double. An exponent that is too large
itself makes it so unless it is negative. -/
def overflows (int frac : List Symbol) (negative : Bool) (exponent : List Symbol) : Bool :=
  let (n, places) := significand int frac
  let (e, unread) := appendDigits maxExponent 0 exponent
  if unread ≠ [] then n ≠ 0 && !negative
  else exceedsDouble n (if negative then places - e else places + e)

/-- Reads a number whose value does not matter, from its first digit on; it must fit a double. -/
def readNumber (s : List Symbol) : Except Fault (List Symbol) :=
  match readInteger s with
  | .error f => .error f
  | .ok (int, r) =>
    match readFraction r with
    | .error f => .error f
    | .ok (frac, r) =>
      match readExponent r with
      | .error f => .error f
      | .ok (negative, exponent, r) =>
        if overflows int frac negative exponent then .error .malformed else .ok r

/-- Skips a number from its first digit on. A number that breaks off is not JSON. -/
def skipNumber (s : List Symbol) : Except Fault (List Symbol) :=
  match readInteger s with
  | .error _ => .error .malformed
  | .ok (_, r) =>
    match readFraction r with
    | .error _ => .error .malformed
    | .ok (_, r) =>
      match readExponent r with
      | .error _ => .error .malformed
      | .ok (_, _, r) => .ok r

end Codewright.Json
