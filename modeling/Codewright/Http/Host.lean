import Codewright.Http.DomainName
import Codewright.Http.Percent
import Codewright.Text.Blank

/-!
# Hosts

The host of a URL is a name or an address. An IPv4 address may be written with fewer than four
parts, and a part in octal or hexadecimal; all spellings mean one address, whose text has four
decimal parts. The text of an IPv6 address is the shortest one. A name is kept in its ASCII form.
-/

namespace Codewright.Http

/-- A host. -/
inductive Host where
  | name (s : String)
  | ipv4 (address : Nat)
  | ipv6 (groups : List Nat)
  deriving DecidableEq, Repr

/-- The value of digits in a base of at most 16. -/
def digitsValue? (base : Nat) (ds : List Char) : Option Nat :=
  ds.foldlM
    (fun n c => (hexDigitValue? c).bind fun d => if d < base then some (base * n + d) else none) 0

namespace Host

/-! ## IPv4 addresses -/

/-- Reads a part of an IPv4 address: octal behind `0`, hexadecimal behind `0x`, else decimal. -/
def ipv4Part? : List Char → Option Nat
  | [] => none
  | '0' :: 'x' :: ds => digitsValue? 16 ds
  | '0' :: 'X' :: ds => digitsValue? 16 ds
  | '0' :: ds => digitsValue? 8 ds
  | ds => digitsValue? 10 ds

/-- The parts between the full stops, of which one may end the text. -/
def dottedParts (cs : List Char) : List (List Char) :=
  let parts := Text.pieces (· = '.') cs
  if parts.getLast? = some [] ∧ 1 < parts.length then parts.dropLast else parts

/-- Whether a name can only be an IPv4 address, because its last part is a number. -/
def endsInNumber (cs : List Char) : Bool :=
  match (dottedParts cs).getLast? with
  | none => false
  | some part => (part ≠ [] ∧ part.all Char.isDigit) || (ipv4Part? part).isSome

/-- The address whose first parts have 8 bits each and whose last part has the remaining ones. -/
def joinIpv4? (parts : List Nat) (last : Nat) : Option Nat :=
  let bound := Nat.pow 256 (4 - parts.length)
  if parts.length ≤ 3 ∧ parts.all (· < 256) ∧ last < bound then
    some (parts.foldl (fun a p => 256 * a + p) 0 * bound + last)
  else none

/-- Reads an IPv4 address. -/
def readIpv4? (cs : List Char) : Option Nat :=
  match (dottedParts cs).mapM ipv4Part? with
  | none => none
  | some numbers =>
    match numbers.getLast? with
    | none => none
    | some last => joinIpv4? numbers.dropLast last

/-! ## IPv6 addresses -/

/-- Reads a group of an IPv6 address. -/
def group? (cs : List Char) : Option Nat :=
  if cs ≠ [] ∧ cs.length ≤ 4 then digitsValue? 16 cs else none

/-- Reads a decimal part of an IPv4 address within an IPv6 address; it has no leading zeros. -/
def decimalPart? (cs : List Char) : Option Nat :=
  if cs = [] ∨ 1 < cs.length ∧ cs.head? = some '0' then none
  else (digitsValue? 10 cs).filter (· < 256)

/-- Reads the last item of an IPv6 address: a group, or an IPv4 address in place of two. -/
def lastGroups? (cs : List Char) : Option (List Nat) :=
  if '.' ∈ cs then
    match (Text.pieces (· = '.') cs).mapM decimalPart? with
    | some [a, b, c, d] => some [256 * a + b, 256 * c + d]
    | _ => none
  else (group? cs).map ([·])

/-- Reads groups between colons; where they end the address, the last item may be special. -/
def groups? (ending : Bool) (cs : List Char) : Option (List Nat) :=
  if cs = [] then some []
  else
    let items := Text.pieces (· = ':') cs
    match items.dropLast.mapM group?, items.getLast? with
    | some first, some last =>
      (if ending then lastGroups? last else (group? last).map ([·])).map (first ++ ·)
    | _, _ => none

/-- The text before and behind the first double colon. -/
def splitDoubleColon : List Char → Option (List Char × List Char)
  | [] => none
  | ':' :: ':' :: rest => some ([], rest)
  | c :: rest => (splitDoubleColon rest).map fun (before, behind) => (c :: before, behind)

/-- Reads an IPv6 address. A double colon stands for all the groups that are missing. -/
def readIpv6? (cs : List Char) : Option (List Nat) :=
  match splitDoubleColon cs with
  | none => (groups? true cs).filter (·.length = 8)
  | some (before, behind) =>
    match groups? false before, groups? true behind with
    | some before, some behind =>
      let n := before.length + behind.length
      if n ≤ 7 then some (before ++ List.replicate (8 - n) 0 ++ behind) else none
    | _, _ => none

/-- The number of zeros at the start of a row. -/
def leadingZeros (groups : List Nat) : Nat :=
  (groups.takeWhile (· = 0)).length

/-- The longest run of zeros: where it starts and how long it is; of several, the first one. -/
def longestZeros : List Nat → Nat × Nat
  | [] => (0, 0)
  | g :: rest =>
    let (start, length) := longestZeros rest
    let here := leadingZeros (g :: rest)
    if length ≤ here then (0, here) else (start + 1, length)

/-- Groups with colons between them. -/
def joinGroups (groups : List Nat) : List Char :=
  List.intercalate [':'] (groups.map (Nat.toDigits 16))

/-- The text of an IPv6 address: a double colon stands for the longest run of zeros. -/
def ipv6Chars (groups : List Nat) : List Char :=
  let (start, length) := longestZeros groups
  if 2 ≤ length then
    joinGroups (groups.take start) ++ [':', ':'] ++ joinGroups (groups.drop (start + length))
  else joinGroups groups

/-! ## Names -/

/-- Whether a character cannot be part of any host. -/
def isForbidden (c : Char) : Bool :=
  c ∈ ['\x00', '\t', '\n', '\r', ' ', '#', '/', ':', '<', '>', '?', '@', '[', '\\', ']', '^', '|']

/-- Whether a character can be part of the name of a host in a network. -/
def isNameChar (c : Char) : Bool :=
  isPlain c && !isForbidden c && c ≠ '%'

/-- The characters that some bytes are. -/
def characters? (bytes : List UInt8) : Option (List Char) :=
  (Text.symbols bytes).mapM id

/-- Reads an address in brackets. -/
def readBracketed? (cs : List Char) : Option Host :=
  if cs.getLast? = some ']' then (readIpv6? cs.dropLast).map ipv6 else none

/-- Reads the host of a URL whose scheme is at home in a network. -/
def read? : List Char → Option Host
  | [] => none
  | '[' :: rest => readBracketed? rest
  | cs =>
    match (characters? (percentDecode cs)).bind DomainName.toAscii? with
    | none => none
    | some domain =>
      if domain = [] ∨ ¬ domain.all isNameChar then none
      else if endsInNumber domain then (readIpv4? domain).map ipv4
      else some (name (String.ofList domain))

/-- Reads the host of any other URL, which means nothing here. -/
def readOther? : List Char → Option Host
  | '[' :: rest => readBracketed? rest
  | cs => if cs.any isForbidden then none else some (name (String.ofList (percentEncode [] cs)))

/-- The text of a host. -/
def chars : Host → List Char
  | name s => s.toList
  | ipv4 a =>
    List.intercalate ['.'] ([a / 0x1000000, a / 0x10000 % 256, a / 0x100 % 256, a % 256].map
      (Nat.toDigits 10))
  | ipv6 groups => '[' :: ipv6Chars groups ++ [']']

end Host

end Codewright.Http
