import Codewright.Text.Utf8

/-!
# Percent encoding

A byte that has no place in a part of a URL stands there as a percent sign and two hexadecimal
digits.
-/

namespace Codewright.Http

/-- The digit for `n < 16`, in upper case. -/
def upperHexDigit (n : Nat) : Char :=
  if n < 10 then Char.ofNat (0x30 + n) else Char.ofNat (0x37 + n)

/-- A byte as a percent sign and two digits. -/
def percentByte (b : UInt8) : List Char :=
  ['%', upperHexDigit (b.toNat / 16), upperHexDigit (b.toNat % 16)]

/-- Whether `c` is plain: an ASCII character other than a control character. -/
def isPlain (c : Char) : Bool :=
  0x20 ≤ c.toNat && c.toNat < 0x7F

/-- Encodes all characters that are not plain, and those in `more`. -/
def percentEncode (more : List Char) (cs : List Char) : List Char :=
  cs.flatMap fun c =>
    if isPlain c ∧ c ∉ more then [c]
    else (Text.bytes (String.singleton c)).flatMap percentByte

/-- The value of a hexadecimal digit. -/
def hexDigitValue? (c : Char) : Option Nat :=
  if '0' ≤ c ∧ c ≤ '9' then some (c.toNat - 0x30)
  else if 'a' ≤ c ∧ c ≤ 'f' then some (c.toNat - 0x57)
  else if 'A' ≤ c ∧ c ≤ 'F' then some (c.toNat - 0x37)
  else none

/-- The bytes of a text in which bytes may be encoded. -/
def percentDecode : List Char → List UInt8
  | [] => []
  | '%' :: a :: b :: rest =>
    match hexDigitValue? a, hexDigitValue? b with
    | some x, some y => UInt8.ofNat (16 * x + y) :: percentDecode rest
    | _, _ => 0x25 :: percentDecode (a :: b :: rest)
  | c :: rest => Text.bytes (String.singleton c) ++ percentDecode rest

end Codewright.Http
