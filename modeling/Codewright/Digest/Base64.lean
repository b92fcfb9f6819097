/-!
# Base64

Three bytes are written as four characters; a last group of one or two bytes is filled up with `=`.
-/

namespace Codewright.Digest.Base64

/-- The character for six bits. -/
def digit (n : Nat) : Char :=
  if n < 26 then Char.ofNat (0x41 + n)
  else if n < 52 then Char.ofNat (0x61 + (n - 26))
  else if n < 62 then Char.ofNat (0x30 + (n - 52))
  else if n = 62 then '+'
  else '/'

/-- The characters for a row of bytes. -/
def chars : List UInt8 → List Char
  | [] => []
  | [a] =>
    let n := a.toNat * 0x10
    [digit (n / 0x40), digit (n % 0x40), '=', '=']
  | [a, b] =>
    let n := (a.toNat * 0x100 + b.toNat) * 4
    [digit (n / 0x1000), digit (n / 0x40 % 0x40), digit (n % 0x40), '=']
  | a :: b :: c :: rest =>
    let n := (a.toNat * 0x100 + b.toNat) * 0x100 + c.toNat
    digit (n / 0x40000) :: digit (n / 0x1000 % 0x40) :: digit (n / 0x40 % 0x40)
      :: digit (n % 0x40) :: chars rest

/-- The text for a row of bytes. -/
def encode (bytes : List UInt8) : String :=
  String.ofList (chars bytes)

end Codewright.Digest.Base64
