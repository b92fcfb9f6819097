import Codewright.Text.Mark

/-!
# Writing direction

Letters are written to the right or to the left; digits and punctuation go along with them. A word
can be told from its neighbours in a line of either direction if it keeps to the rules below
(Unicode 17).
-/

namespace Codewright.Text

/-- How a character takes part in the direction of a line. -/
inductive Direction where
  | rightward
  | leftward
  /-- Digits of texts that are written to the right. -/
  | digit
  /-- Digits of texts that are written to the left. -/
  | leftwardDigit
  /-- Marks, which go along with the character before them. -/
  | mark
  | neutral
  deriving DecidableEq, Repr

namespace Direction

/-- Characters that are written to the left. -/
def leftwardLetters : CodePoints := .ofRows [
  "5BE 5C0 5C3 5C6 5D0-5F4 608 60B 60D 61B-64A 66D-66F 671-6D5 6E5-6E6 6EE-6EF 6FA-710 712-72F",
  "74D-7A5 7B1-7EA 7F4-7F5 7FA 7FE-815 81A 824 828 830-858 85E-88F 8A0-8C9 FBB2-FBC2 FE73",
  "10800-1091B 10920-10A00 10A10-10A35 10A40-10AE4 10AEB-10B35 10B40-10D23 10D40-10D4F 10D6F-10D8F",
  "10E80-10EA9 10EAD-10ED0 10F00-10F45 10F51-10F81 10F86-10FF6 1E800-1E8CF 1E922-1E943 1E94B-1ED3D"]

/-- Digits for texts that are written to the left. -/
def leftwardDigits : CodePoints := .ofRows [
  "660-669 66B-66C 10D30-10D39 10E60-10E7E"]

/-- Digits that are neither ASCII nor written in texts to the left. -/
def otherDigits : CodePoints := .ofRows [
  "6F0-6F9 102E1-102FB"]

/-- Symbols and punctuation other than ASCII. -/
def neutrals : CodePoints := .ofRows [
  "A1-D7 F7 2B9-2BA 2C2-2CF 2D2-2ED 2EF-2FF 375 3F6 58A-58F 606-607 609-60A 60C 60E-60F 66A 6DE",
  "6E9 7F6-7F9 9F2-9F3 9FB AF1 BF3-BFA C78-C7E E3F F3A-F3D 1390-1399 1400 169B-169C 17DB 17F0-180A",
  "1940-1945 19DE-19FF 200C-20C1 2104-214D 218A-2335 237B-2394 2396-26AB 26AD-27FF 2900-2BFF",
  "2CE5-2CEA 2CF9-2CFF 2E00-3004 3008-3020 3030 3037 303D-303F 30A0 30FB 31C0-31E5 4DC0-4DFF",
  "A490-A4C6 A60D-A60F A673 A67E-A67F A700-A721 A788 A828-A82B A838-A839 A874-A877 AB6A-AB6B",
  "FBC3-FDFF FE45-FE46 10101 10140-1018C 10190-101A0 1091F 10B39-10B3F 10D6E 10ED1-10ED8",
  "11052-11065 11660-1166C 11FD5-11FF1 16FE2 1CC00-1CEF0 1D1E9-1D241 1D245 1D300-1D356 1E2FF",
  "1EEF0-1F12F 1F16D-1F16F 1F1AD 1F260-1FBFA"]

/-- Marks that are as letters to the direction. -/
def rightwardMarks : List Nat := [0xCBF, 0xCC6, 0x11A07, 0x11A08, 0x11C3F]

/-- The direction of a character that can be part of a name. -/
def ofChar (c : Char) : Direction :=
  let n := c.toNat
  if n < 0x80 then
    if c.isDigit then digit else if c.isAlpha then rightward else neutral
  else if n ∈ rightwardMarks then rightward
  else if isNonspacing c then mark
  else if leftwardLetters.holds n then leftward
  else if leftwardDigits.holds n then leftwardDigit
  else if otherDigits.holds n then digit
  else if neutrals.holds n then neutral
  else rightward

/-- Whether a character belongs to a text that is written to the left. -/
def isLeftward (d : Direction) : Bool :=
  d = leftward || d = leftwardDigit

end Direction

open Direction

/-- Whether a word written to the right keeps to the rules: nothing in it is written to the left,
and it ends with a letter or digit, perhaps with marks. -/
def isRightwardWord (ds : List Direction) : Bool :=
  ds.all (fun d => !d.isLeftward) &&
    match ds.reverse.dropWhile (· = mark) with
    | [] => false
    | last :: _ => last = rightward || last = digit

/-- Whether a word written to the left keeps to the rules: nothing in it is written to the right, it
does not mix digits, and it ends with a letter or digit, perhaps with marks. -/
def isLeftwardWord (ds : List Direction) : Bool :=
  !ds.contains rightward && !(ds.contains digit && ds.contains leftwardDigit) &&
    match ds.reverse.dropWhile (· = mark) with
    | [] => false
    | last :: _ => last = leftward || last = digit || last = leftwardDigit

/-- Whether a word keeps its shape in lines of either direction; it starts with a letter. -/
def isSteady (cs : List Char) : Bool :=
  let ds := cs.map Direction.ofChar
  match ds with
  | [] => true
  | rightward :: _ => isRightwardWord ds
  | leftward :: _ => isLeftwardWord ds
  | _ :: _ => false

end Codewright.Text
