import Codewright.Text.Utf8
import Codewright.Workspace.Path

/-!
# Path patterns

A pattern describes a path relative to some directory. `?` and `*` stand for one byte and for any
number of bytes other than a slash, `**` between slashes for any number of directories, a bracket
for one byte out of a set, and braces for one of several patterns. Matching keeps all places of the
path that the parts of the pattern so far may lead to.
-/

namespace Codewright.Workspace.Glob

/-- A part of a pattern. -/
inductive Part where
  | byte (b : UInt8)
  /-- One byte other than a slash. -/
  | any
  /-- Any number of bytes other than slashes. -/
  | star
  /-- Any directories at the start of the path, each with its slash. -/
  | anyDirs
  /-- A slash and anything behind it. -/
  | anyBelow
  /-- A slash, perhaps with any directories behind it. -/
  | slashDirs
  /-- One byte in (or not in) one of the ranges. -/
  | oneOf (negated : Bool) (ranges : List (UInt8 × UInt8))
  /-- One of several patterns. -/
  | alternatives (patterns : List (List Part))

/-! ## Reading a pattern -/

/-- The parts for the bytes of a character. -/
def literal (c : Char) : List Part :=
  (Text.bytes c.toString).map .byte

/-- Splits the content of a bracket from what follows it. The first character of the content may
be a closing bracket. -/
def spanBracket (cs : List Char) : Option (List Char × List Char) :=
  let (first, rest) :=
    match cs with
    | [] => ([], [])
    | c :: rest => ([c], rest)
  match rest.dropWhile (· ≠ ']') with
  | [] => none
  | _ :: after => some (first ++ rest.takeWhile (· ≠ ']'), after)

/-- The ranges of characters in a bracket, latest first in `ranges`: a dash behind a character makes
a range that ends with the next one. There are none if a range runs backwards. -/
def bracketRanges? (ranges : List (Char × Char)) (dashed : Bool) :
    List Char → Option (List (Char × Char))
  | [] => some (if dashed then ('-', '-') :: ranges else ranges).reverse
  | c :: rest =>
    match ranges with
    | [] => bracketRanges? [(c, c)] false rest
    | (a, b) :: before =>
      if dashed then
        if c < a then none else bracketRanges? ((a, c) :: before) false rest
      else if c = '-' then bracketRanges? ((a, b) :: before) true rest
      else bracketRanges? ((c, c) :: (a, b) :: before) false rest

/-- The bytes in a range of characters: the bytes of both ends, and what lies between the last byte
of the one and the first byte of the other. -/
def byteRanges (r : Char × Char) : List (UInt8 × UInt8) :=
  let single (b : UInt8) := (b, b)
  let low := Text.bytes r.1.toString
  let high := Text.bytes r.2.toString
  if r.1 = r.2 then low.map single
  else
    match low.getLast?, high with
    | some a, b :: rest => low.dropLast.map single ++ (a, b) :: rest.map single
    | _, _ => []

/-- The part that a bracket stands for. -/
def bracket? (content : List Char) : Option Part :=
  let (negated, content) :=
    match content with
    | '!' :: rest => (true, rest)
    | '^' :: rest => (true, rest)
    | rest => (false, rest)
  (bracketRanges? [] false content).map fun ranges => .oneOf negated (ranges.flatMap byteRanges)

/-- Splits a bracket from what follows it; a mark of negation does not count as content. -/
def spanMarkedBracket (cs : List Char) : Option (List Char × List Char) :=
  let marked (c : Char) (rest : List Char) :=
    (spanBracket rest).map fun (content, after) => (c :: content, after)
  match cs with
  | '!' :: rest => marked '!' rest
  | '^' :: rest => marked '^' rest
  | cs => spanBracket cs

/-- An open brace: the parts before it and the alternatives that are complete, latest first. -/
structure Brace where
  before : List Part
  complete : List (List Part)

/-- What has been read of a pattern. -/
structure Draft where
  /-- The parts of the innermost sequence, latest first. -/
  parts : List Part := []
  braces : List Brace := []
  /-- The character before the next one. -/
  previous : Option Char := none
  /-- A bracket has been found that is not closed; from then on brackets are literal. -/
  literalBrackets : Bool := false

namespace Draft

/-- Adds parts and remembers the character they end with. -/
def add (d : Draft) (parts : List Part) (c : Char) : Draft :=
  { d with parts := parts.reverse ++ d.parts, previous := some c }

/-- Adds two stars in a row, seen before `next`; tells whether they include a slash behind them. -/
def addStars (d : Draft) (next : Option Char) : Draft × Bool :=
  let plain := (d.add [.star, .star] '*', false)
  let ends :=
    match next with
    | none => true
    | some c => (c = ',' || c = '\x7d') && !d.braces.isEmpty
  match d.parts with
  | [] =>
    match next with
    | none => ({ d with parts := [.anyDirs], previous := none }, false)
    | some '/' => (d.add [.anyDirs] '/', true)
    | some _ => plain
  | last :: before =>
    let afterSlash := d.previous = some '/'
    let afterBrace := !d.braces.isEmpty && (d.previous = some ',' || d.previous = some '\x7b')
    if !afterSlash && !afterBrace then plain
    else if !ends && next ≠ some '/' then plain
    else
      let part : Part :=
        match last with
        | .anyDirs => .anyDirs
        | .anyBelow => .anyBelow
        | _ => if ends then .anyBelow else .slashDirs
      let d := { d with parts := part :: before }
      if ends then ({ d with previous := some '*' }, false)
      else ({ d with previous := some '/' }, true)

/-- Opens a brace. -/
def openBrace (d : Draft) : Draft :=
  { d with parts := [], braces := ⟨d.parts, []⟩ :: d.braces, previous := some '\x7b' }

/-- Ends an alternative; a comma outside braces is literal. -/
def comma (d : Draft) : Draft :=
  match d.braces with
  | [] => d.add (literal ',') ','
  | b :: outer =>
    { d with
      parts := []
      braces := { b with complete := d.parts.reverse :: b.complete } :: outer
      previous := some ',' }

/-- Ends a brace, if one is open. -/
def closeBrace? (d : Draft) : Option Draft :=
  match d.braces with
  | [] => none
  | b :: outer =>
    some { d with
      parts := .alternatives (d.parts.reverse :: b.complete).reverse :: b.before
      braces := outer
      previous := some '\x7d' }

/-- The parts of a pattern that has been read to its end. -/
def finish? (d : Draft) : Option (List Part) :=
  if d.braces.isEmpty then some d.parts.reverse else none

end Draft

/-- Reads on in a pattern, in at most `fuel` steps. -/
def readFrom : Nat → Draft → List Char → Option (List Part)
  | 0, _, _ => none
  | _ + 1, d, [] => d.finish?
  | fuel + 1, d, '?' :: cs => readFrom fuel (d.add [.any] '?') cs
  | fuel + 1, d, '*' :: '*' :: cs =>
    let (d, withSlash) := d.addStars cs.head?
    readFrom fuel d (if withSlash then cs.drop 1 else cs)
  | fuel + 1, d, '*' :: cs => readFrom fuel (d.add [.star] '*') cs
  | fuel + 1, d, '[' :: cs =>
    let asLiteral := { d.add (literal '[') '[' with literalBrackets := true }
    if d.literalBrackets then readFrom fuel asLiteral cs
    else
      match spanMarkedBracket cs with
      | none => if (bracket? cs).isNone then none else readFrom fuel asLiteral cs
      | some (content, after) =>
        match bracket? content with
        | none => none
        | some part => readFrom fuel (d.add [part] ']') after
  | fuel + 1, d, '\x7b' :: cs => readFrom fuel d.openBrace cs
  | fuel + 1, d, '\x7d' :: cs =>
    match d.closeBrace? with
    | none => none
    | some d => readFrom fuel d cs
  | fuel + 1, d, ',' :: cs => readFrom fuel d.comma cs
  | _ + 1, _, ['\\'] => none
  | fuel + 1, d, '\\' :: c :: cs => readFrom fuel (d.add (literal c) c) cs
  | fuel + 1, d, c :: cs => readFrom fuel (d.add (literal c) c) cs

/-- Reads a pattern; there is none if a brace is not closed, or not open, if a range runs
backwards, even in a bracket that is not closed, or if the pattern ends with a backslash. -/
def ofText? (cs : List Char) : Option (List Part) :=
  readFrom (cs.length + 1) {} cs

/-! ## Empty parts -/

mutual

/-- Whether a part stands for nothing: braces without a single alternative. -/
def isVoid : Part → Bool
  | .alternatives patterns => allVoid patterns
  | _ => false

/-- Whether a sequence stands for nothing. -/
def isVoidRow : List Part → Bool
  | [] => true
  | p :: rest => isVoid p && isVoidRow rest

/-- Whether each of the sequences stands for nothing. -/
def allVoid : List (List Part) → Bool
  | [] => true
  | row :: rest => isVoidRow row && allVoid rest

end

/-! ## Depth -/

/-- The number of things in a row that a part consists of. -/
def width : Part → Nat
  | .anyBelow => 2
  | .alternatives patterns => if allVoid patterns then 0 else 1
  | _ => 1

/-- The depth of things in a row: a row of several is a level of its own. -/
def rowDepth (count deepest : Nat) : Nat :=
  if 2 ≤ count then deepest + 1 else deepest

mutual

/-- How deep the constructions in a part are nested: repetitions, sets, groups, choices and rows. -/
def depth : Part → Nat
  | .byte _ => 0
  | .any => 1
  | .star => 2
  | .anyDirs => 4
  | .anyBelow => 1
  | .slashDirs => 4
  | .oneOf _ ranges => if 2 ≤ ranges.length then 2 else 1
  | .alternatives patterns =>
    let (count, deepest) := depthOfRows patterns
    if count = 0 then 0 else 1 + rowDepth count deepest

/-- The number of things in a sequence, and how deep the deepest is. -/
def depthOfRow : List Part → Nat × Nat
  | [] => (0, 0)
  | p :: rest =>
    let (count, deepest) := depthOfRow rest
    (width p + count, max (depth p) deepest)

/-- The number of sequences that stand for something, and how deep the deepest is. -/
def depthOfRows : List (List Part) → Nat × Nat
  | [] => (0, 0)
  | row :: more =>
    let (count, deepest) := depthOfRows more
    if isVoidRow row then (count, deepest)
    else
      let (items, inner) := depthOfRow row
      (count + 1, max (rowDepth items inner) deepest)

end

/-- The depth up to which a pattern can be used. -/
def maxDepth : Nat := 250

/-- Whether a pattern is nested too deeply to be used. The pattern itself is a level. -/
def isTooDeep (pattern : List Part) : Bool :=
  maxDepth < 1 + (depthOfRow pattern).2

/-! ## Matching -/

/-- Which places of a path can be reached: one mark for the place before each byte, and one for the
end. -/
abbrev Reach := List Bool

namespace Reach

/-- Only the start. -/
def start (path : List UInt8) : Reach :=
  true :: path.map fun _ => false

/-- The places that are in one of two sets. -/
def union (r s : Reach) : Reach :=
  List.zipWith (· || ·) r s

/-- The places one byte further on, if the byte satisfies `p`. -/
def advance (p : UInt8 → Bool) (path : List UInt8) (r : Reach) : Reach :=
  false :: List.zipWith (fun b here => here && p b) path r

/-- The places any number of bytes further on, all of which satisfy `p`; `carry` tells whether the
first place is such a place. -/
def spread (p : UInt8 → Bool) (carry : Bool) : List UInt8 → Reach → Reach
  | b :: path, here :: r =>
    let here := here || carry
    here :: spread p (here && p b) path r
  | _, here :: _ => [here || carry]
  | _, [] => []

/-- The places behind any slash further on; `seen` tells whether an earlier place has been reached,
and `behind` whether a slash stands just before. -/
def behindSlashes (seen behind : Bool) : List UInt8 → Reach → Reach
  | b :: path, here :: r =>
    (seen && behind) :: behindSlashes (seen || here) (b = slash) path r
  | _, _ :: _ => [seen && behind]
  | _, [] => []

end Reach

/-- Whether a byte separates names. -/
def isSlash (b : UInt8) : Bool := b = slash

/-- Whether a byte is part of a name. -/
def isInName (b : UInt8) : Bool := b ≠ slash

mutual

/-- The places that a part leads to. -/
def reach (path : List UInt8) (r : Reach) : Part → Reach
  | .byte b => r.advance (· = b) path
  | .any => r.advance isInName path
  | .star => Reach.spread isInName false path r
  | .anyDirs => r.union (.behindSlashes false false path r)
  | .anyBelow => Reach.spread (fun _ => true) false path (r.advance isSlash path)
  | .slashDirs =>
    let below := r.advance isSlash path
    below.union (.behindSlashes false false path below)
  | .oneOf negated ranges =>
    r.advance (fun c => ranges.any (fun (a, b) => a ≤ c && c ≤ b) != negated) path
  | .alternatives patterns => if allVoid patterns then r else reachByAny path r patterns

/-- The places that a sequence of parts leads to. -/
def reachByRow (path : List UInt8) (r : Reach) : List Part → Reach
  | [] => r
  | p :: row => reachByRow path (reach path r p) row

/-- The places that one of the sequences leads to; one that stands for nothing does not count. -/
def reachByAny (path : List UInt8) (r : Reach) : List (List Part) → Reach
  | [] => r.map fun _ => false
  | row :: more =>
    let others := reachByAny path r more
    if isVoidRow row then others else (reachByRow path r row).union others

end

/-- Whether a pattern describes a path. -/
def isMatch (pattern : List Part) (path : List UInt8) : Bool :=
  match pattern with
  | [.anyDirs] => true
  | pattern => (reachByRow path (.start path) pattern).getLast? = some true

end Codewright.Workspace.Glob
