/-!
# Bytes as text

Reads bytes as UTF-8. Bytes that are no part of a character are kept apart, one `none` for each
longest beginning of a character that breaks off.
-/

namespace Codewright.Text

/-- A character, or `none` for bytes that form none. -/
abbrev Symbol := Option Char

/-- Whether `b` continues a character. -/
def isTail (b : UInt8) : Bool :=
  0x80 ≤ b && b ≤ 0xBF

/-- The bytes that may follow the lead byte `a` of a character with more than two bytes. -/
def secondByteOk (a b : UInt8) : Bool :=
  if a = 0xE0 then 0xA0 ≤ b && b ≤ 0xBF
  else if a = 0xED then 0x80 ≤ b && b ≤ 0x9F
  else if a = 0xF0 then 0x90 ≤ b && b ≤ 0xBF
  else if a = 0xF4 then 0x80 ≤ b && b ≤ 0x8F
  else isTail b

/-- The payload of a byte that continues a character. -/
def tailBits (b : UInt8) : Nat :=
  b.toNat % 0x40

/-- What the byte `a` starts, and how many of the bytes behind it belong to that. -/
def symbolFrom (a : UInt8) (rest : List UInt8) : Symbol × Nat :=
  if a < 0x80 then (some (Char.ofNat a.toNat), 0)
  else if 0xC2 ≤ a && a ≤ 0xDF then
    match rest with
    | b :: _ =>
      if isTail b then (some (Char.ofNat (a.toNat % 0x20 * 0x40 + tailBits b)), 1) else (none, 0)
    | [] => (none, 0)
  else if 0xE0 ≤ a && a ≤ 0xEF then
    match rest with
    | b :: more =>
      if secondByteOk a b then
        match more with
        | c :: _ =>
          if isTail c then
            (some (Char.ofNat (a.toNat % 0x10 * 0x1000 + tailBits b * 0x40 + tailBits c)), 2)
          else (none, 1)
        | [] => (none, 1)
      else (none, 0)
    | [] => (none, 0)
  else if 0xF0 ≤ a && a ≤ 0xF4 then
    match rest with
    | b :: more =>
      if secondByteOk a b then
        match more with
        | c :: more =>
          if isTail c then
            match more with
            | d :: _ =>
              if isTail d then
                (some (Char.ofNat (a.toNat % 0x08 * 0x40000 + tailBits b * 0x1000
                  + tailBits c * 0x40 + tailBits d)), 3)
              else (none, 2)
            | [] => (none, 2)
          else (none, 1)
        | [] => (none, 1)
      else (none, 0)
    | [] => (none, 0)
  else (none, 0)

/-- The symbols that the bytes form. -/
def symbols : List UInt8 → List Symbol
  | [] => []
  | a :: rest =>
    let (x, n) := symbolFrom a rest
    x :: symbols (rest.drop n)
termination_by bytes => bytes.length
decreasing_by simp only [List.length_drop, List.length_cons]; omega

/-- The bytes as text, with a replacement character for what is none. -/
def lossy (bytes : List UInt8) : String :=
  String.ofList ((symbols bytes).map (·.getD '\ufffd'))

/-- The bytes of a text. -/
def bytes (s : String) : List UInt8 :=
  s.toUTF8.toList

end Codewright.Text
