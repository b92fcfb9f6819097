import Codewright.Http.NameMapping
import Codewright.Http.Punycode
import Codewright.Text.Composition
import Codewright.Text.Direction
import Codewright.Text.Joining

/-!
# Domain names

A domain name is a row of labels with full stops between them. Networks know it in ASCII only: a
label with other characters is evened out and then written in Punycode behind `xn--`.
-/

namespace Codewright.Http

/-- A label as it is written in ASCII, and the text that it means. -/
structure Label where
  written : List Char
  meant : List Char
  deriving DecidableEq, Repr

namespace Label

/-- What stands before a label in Punycode. -/
def mark : List Char := ['x', 'n', '-', '-']

/-- Whether a character is ASCII. -/
def isAscii (c : Char) : Bool := c.toNat < 0x80

/-- The longest label that is written in Punycode. -/
def maxMeantLength : Nat := 1000

/-- The longest text in Punycode that is read. -/
def maxCodeLength : Nat := 2000

/-- Reads a label that has been evened out. A label in Punycode has to mean a text that is evened
out, too. -/
def read? (cs : List Char) : Option Label :=
  match mark.isPrefixOf? cs with
  | some code =>
    if code.getLast?.getD '-' = '-' ∨ maxCodeLength < code.length then none
    else
      ((Punycode.decode? code).filter fun meant =>
        meant.all isPlainest && Text.compose meant = meant).map (⟨cs, ·⟩)
  | none =>
    if cs.all isAscii then some ⟨cs, cs⟩
    else if maxMeantLength < cs.length then none
    else some ⟨mark ++ Punycode.encode cs, cs⟩

/-- Whether a label is a text of its own: it does not start with a mark for the character before,
and its joiners have a meaning. -/
def isWhole (l : Label) : Bool :=
  !(l.meant.head?.any Text.isMark) && Text.joinersHaveMeaning [] l.meant

/-- Whether something in a label is written to the left. -/
def hasLeftward (l : Label) : Bool :=
  l.meant.any fun c => (Text.Direction.ofChar c).isLeftward

end Label

namespace DomainName

/-- A name in which characters that are the same for names are the same. -/
def evenOut? (cs : List Char) : Option (List Char) :=
  (cs.mapM plainChars?).map fun parts => Text.compose parts.flatten

/-- The labels of a name. -/
def labels (cs : List Char) : List (List Char) :=
  Text.pieces (· = '.') cs

/-- Whether labels can stand side by side: if something in one of them is written to the left, each
of them keeps its shape in both directions. -/
def areLegible (labels : List Label) : Bool :=
  !labels.any Label.hasLeftward || labels.all fun l => Text.isSteady l.meant

/-- Whether nothing but case needs to be evened out. -/
def isSimple (cs : List Char) : Bool :=
  cs.all Label.isAscii && (labels (cs.map Char.toLower)).all fun l => !Label.mark.isPrefixOf l

/-- A name in ASCII, if it has such a form. -/
def toAscii? (cs : List Char) : Option (List Char) :=
  if isSimple cs then some (cs.map Char.toLower)
  else
    match (evenOut? cs).bind fun even => (labels even).mapM Label.read? with
    | none => none
    | some ls =>
      if ls.all Label.isWhole && areLegible ls then
        some (List.intercalate ['.'] (ls.map (·.written)))
      else none

end DomainName

end Codewright.Http
