/-!
# JSON values and their text

Values are written on one line without spaces, members in the order of the record. In a text only
quotes, backslashes and control characters are escaped.
-/

namespace Codewright

/-- A JSON value; the program uses no fractions and no negative numbers. -/
inductive Json where
  | null
  | bool (b : Bool)
  | number (n : Nat)
  | text (s : String)
  | list (items : List Json)
  | record (members : List (String × Json))

namespace Json

/-- The digit for `n < 16`. -/
def hexDigit (n : Nat) : Char :=
  if n < 10 then Char.ofNat (0x30 + n) else Char.ofNat (0x57 + n)

/-- One character as it stands in a JSON string. -/
def escapeChar (c : Char) : List Char :=
  if c = '"' then ['\\', '"']
  else if c = '\\' then ['\\', '\\']
  else if c = '\x08' then ['\\', 'b']
  else if c = '\t' then ['\\', 't']
  else if c = '\n' then ['\\', 'n']
  else if c = '\x0c' then ['\\', 'f']
  else if c = '\r' then ['\\', 'r']
  else if c.toNat < 0x20 then
    ['\\', 'u', '0', '0', hexDigit (c.toNat / 16), hexDigit (c.toNat % 16)]
  else [c]

/-- A text as a JSON string. -/
def quoted (s : String) : List Char :=
  '"' :: s.toList.flatMap escapeChar ++ ['"']

mutual

/-- The text of a value. -/
def chars : Json → List Char
  | null => ['n', 'u', 'l', 'l']
  | bool true => ['t', 'r', 'u', 'e']
  | bool false => ['f', 'a', 'l', 's', 'e']
  | number n => Nat.toDigits 10 n
  | text s => quoted s
  | list [] => ['[', ']']
  | list (item :: rest) => '[' :: chars item ++ itemChars rest ++ [']']
  | record [] => ['\x7b', '\x7d']
  | record ((name, value) :: rest) =>
    '\x7b' :: quoted name ++ ':' :: chars value ++ memberChars rest ++ ['\x7d']

/-- Further items, each behind a comma. -/
def itemChars : List Json → List Char
  | [] => []
  | item :: rest => ',' :: chars item ++ itemChars rest

/-- Further members, each behind a comma. -/
def memberChars : List (String × Json) → List Char
  | [] => []
  | (name, value) :: rest => ',' :: quoted name ++ ':' :: chars value ++ memberChars rest

end

/-- The text of a value, on one line. -/
def render (j : Json) : String :=
  String.ofList j.chars

/-- A text, or null if there is none. -/
def ofText? : Option String → Json
  | none => null
  | some s => text s

end Json

end Codewright
