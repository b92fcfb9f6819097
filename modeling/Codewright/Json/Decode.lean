import Codewright.Json.Basic
import Codewright.Json.Scan

/-!
# Reading messages

A message is a record with known members. In the text it is an object, whose members stand in any
order and may have unknown ones among them, or an array of the members' values in their order. A
reader goes through the text once and stops at the first thing that is wrong.
-/

namespace Codewright.Json

open Text (Symbol)

/-- Reads a value from the head of a text and returns the rest. -/
abbrev Reader := List Symbol → Except Fault (Json × List Symbol)

/-- What is wrong when a value of another kind stands at the head of a text: the value itself may
be malformed, and is read so far that its kind is certain. -/
def mismatch (s : List Symbol) : Fault :=
  let after {α : Type} (r : Except Fault α) : Fault :=
    match r with
    | .error f => f
    | .ok _ => .mismatch
  match s with
  | some 'n' :: r => after (skipLetters ['u', 'l', 'l'] r)
  | some 't' :: r => after (skipLetters ['r', 'u', 'e'] r)
  | some 'f' :: r => after (skipLetters ['a', 'l', 's', 'e'] r)
  | some '"' :: r => after (readString r)
  | some '[' :: _ => .mismatch
  | some '\x7b' :: _ => .mismatch
  | some '-' :: r => after (readNumber r)
  | some c :: r => if c.isDigit then after (readNumber (some c :: r)) else .malformed
  | s => unexpected s

/-- Reads a string. -/
def readText : Reader := fun s =>
  match skipSpace s with
  | some '"' :: r =>
    match readString r with
    | .error f => .error f
    | .ok (cs, r) => .ok (text (String.ofList cs), r)
  | s => .error (mismatch s)

/-- Reads a string or null. -/
def readNullableText : Reader := fun s =>
  match skipSpace s with
  | some 'n' :: r =>
    match skipLetters ['u', 'l', 'l'] r with
    | .error f => .error f
    | .ok r => .ok (null, r)
  | s => readText s

/-! ## Skipping a value -/

/-- A list or record whose end is still to come. -/
inductive Bracket where
  | list
  | record
  deriving DecidableEq

/-- The symbol that ends it. -/
def Bracket.close : Bracket → Symbol
  | .list => some ']'
  | .record => some '\x7d'

/-- Where in a nest of brackets the scanner stands. -/
inductive Place where
  /-- Before a value. -/
  | value
  /-- Behind the opening of the innermost bracket. -/
  | opened
  /-- Behind a value. -/
  | done

/-- Skips the name of a member and the colon behind it. -/
def skipName (s : List Symbol) : Except Fault (List Symbol) :=
  match skipSpace s with
  | some '"' :: r =>
    match skipString r with
    | .error f => .error f
    | .ok r =>
      match skipSpace r with
      | some ':' :: r => .ok r
      | s => .error (unexpected s)
  | s => .error (unexpected s)

/-- Skips up to the end of the outermost bracket in at most `fuel` steps. -/
def skipFrom : Nat → Place → List Bracket → List Symbol → Except Fault (List Symbol)
  | 0, _, _, _ => .error .malformed
  | fuel + 1, .value, brackets, s =>
    let continueAfter (r : Except Fault (List Symbol)) :=
      match r with
      | .error f => .error f
      | .ok r => skipFrom fuel .done brackets r
    match skipSpace s with
    | some 'n' :: r => continueAfter (skipLetters ['u', 'l', 'l'] r)
    | some 't' :: r => continueAfter (skipLetters ['r', 'u', 'e'] r)
    | some 'f' :: r => continueAfter (skipLetters ['a', 'l', 's', 'e'] r)
    | some '"' :: r => continueAfter (skipString r)
    | some '-' :: r => continueAfter (skipNumber r)
    | some '[' :: r => skipFrom fuel .opened (.list :: brackets) r
    | some '\x7b' :: r => skipFrom fuel .opened (.record :: brackets) r
    | some c :: r =>
      if c.isDigit then continueAfter (skipNumber (some c :: r)) else .error .malformed
    | s => .error (unexpected s)
  | _ + 1, .opened, [], _ => .error .malformed
  | fuel + 1, .opened, b :: outer, s =>
    match skipSpace s with
    | [] => .error .truncated
    | x :: r =>
      if x = b.close then skipFrom fuel .done outer r
      else
        match b with
        | .list => skipFrom fuel .value (b :: outer) (x :: r)
        | .record =>
          match skipName (x :: r) with
          | .error f => .error f
          | .ok r => skipFrom fuel .value (b :: outer) r
  | _ + 1, .done, [], s => .ok s
  | fuel + 1, .done, b :: outer, s =>
    match skipSpace s with
    | [] => .error .truncated
    | x :: r =>
      if x = b.close then skipFrom fuel .done outer r
      else if x = some ',' then
        match b with
        | .list => skipFrom fuel .value (b :: outer) r
        | .record =>
          match skipName r with
          | .error f => .error f
          | .ok r => skipFrom fuel .value (b :: outer) r
      else .error .malformed

/-- Skips a value of any kind. -/
def skipValue (s : List Symbol) : Except Fault (List Symbol) :=
  skipFrom (2 * s.length + 2) .value [] s

/-! ## Lists -/

/-- Reads the further items of a list, up to its closing bracket. -/
def readItems (item : Reader) : Nat → Bool → List Symbol → Except Fault (List Json × List Symbol)
  | 0, _, _ => .error .malformed
  | fuel + 1, first, s =>
    let go (s : List Symbol) :=
      match item s with
      | .error f => .error f
      | .ok (value, r) =>
        match readItems item fuel false r with
        | .error f => .error f
        | .ok (values, r) => .ok (value :: values, r)
    match skipSpace s with
    | [] => .error .truncated
    | some ']' :: r => .ok ([], r)
    | x :: r =>
      if first then go (x :: r)
      else if x = some ',' then
        match skipSpace r with
        | [] => .error .truncated
        | some ']' :: _ => .error .malformed
        | s => go s
      else .error .malformed

/-- Reads a list of items of one kind. -/
def readList (item : Reader) : Reader := fun s =>
  match skipSpace s with
  | some '[' :: r =>
    match readItems item (r.length + 1) true r with
    | .error f => .error f
    | .ok (values, r) => .ok (list values, r)
  | s => .error (mismatch s)

/-! ## Records -/

/-- A member of a record: its name, its kind, and what it is if it does not occur. -/
structure Member where
  name : String
  read : Reader
  absent : Option Json

/-- The members read so far, with the value of each one that has occurred. -/
abbrev Slots := List (Member × Option Json)

/-- The slots of a record of which nothing has been read. -/
def Slots.empty (members : List Member) : Slots :=
  members.map (·, none)

/-- Enters a member's value. -/
def Slots.fill (slots : Slots) (name : String) (value : Json) : Slots :=
  slots.map fun (m, old) => (m, if m.name = name then some value else old)

/-- The record, if each member has occurred or may be absent. -/
def Slots.finish (slots : Slots) : Except Fault Json :=
  match slots.mapM fun (m, value) => (value.or m.absent).map (m.name, ·) with
  | some members => .ok (record members)
  | none => .error .mismatch

/-- Strips the colon behind a member's name. -/
def skipColon (s : List Symbol) : Except Fault (List Symbol) :=
  match skipSpace s with
  | some ':' :: r => .ok r
  | s => .error (unexpected s)

/-- Reads members up to the closing brace. -/
def readMembers : Nat → Bool → Slots → List Symbol → Except Fault (Slots × List Symbol)
  | 0, _, _, _ => .error .malformed
  | fuel + 1, first, slots, s =>
    let go (r : List Symbol) :=
      match readString r with
      | .error f => .error f
      | .ok (name, r) =>
        match slots.find? (·.1.name = String.ofList name) with
        | some (m, none) =>
          match skipColon r with
          | .error f => .error f
          | .ok r =>
            match m.read r with
            | .error f => .error f
            | .ok (value, r) => readMembers fuel false (slots.fill m.name value) r
        | some (_, some _) => .error .mismatch
        | none =>
          match skipColon r with
          | .error f => .error f
          | .ok r =>
            match skipValue r with
            | .error f => .error f
            | .ok r => readMembers fuel false slots r
    match skipSpace s with
    | [] => .error .truncated
    | some '\x7d' :: r => .ok (slots, r)
    | some '"' :: r => if first then go r else .error .malformed
    | some ',' :: r =>
      if first then .error .malformed
      else
        match skipSpace r with
        | some '"' :: r => go r
        | s => .error (unexpected s)
    | _ :: _ => .error .malformed

/-- Reads the values of the members in their order, as far as the array goes. -/
def readRow : Bool → Slots → List Symbol → Except Fault (Slots × List Symbol)
  | _, [], s => .ok ([], s)
  | first, (m, _) :: slots, s =>
    let go (s : List Symbol) :=
      match m.read s with
      | .error f => .error f
      | .ok (value, r) =>
        match readRow false slots r with
        | .error f => .error f
        | .ok (slots, r) => .ok ((m, some value) :: slots, r)
    match skipSpace s with
    | [] => .error .truncated
    | some ']' :: r => .ok ((m, none) :: slots, some ']' :: r)
    | x :: r =>
      if first then go (x :: r)
      else if x = some ',' then
        match skipSpace r with
        | [] => .error .truncated
        | some ']' :: _ => .error .malformed
        | s => go s
      else .error .malformed

/-- Strips the end of an array; whatever stands before it is not JSON. -/
def closeRow (s : List Symbol) : Except Fault (List Symbol) :=
  match skipSpace s with
  | some ']' :: r => .ok r
  | s => .error (unexpected s)

/-- Reads a record from an object or from an array. -/
def readRecord (members : List Member) : Reader := fun s =>
  match skipSpace s with
  | some '\x7b' :: r =>
    match readMembers (r.length + 1) true (.empty members) r with
    | .error f => .error f
    | .ok (slots, r) =>
      match slots.finish with
      | .error f => .error f
      | .ok value => .ok (value, r)
  | some '[' :: r =>
    match readRow true (.empty members) r with
    | .error f => .error f
    | .ok (slots, r) =>
      match slots.finish with
      | .error f => .error f
      | .ok value =>
        match closeRow r with
        | .error f => .error f
        | .ok r => .ok (value, r)
  | s => .error (mismatch s)

/-- Reads a text that holds one value and nothing else. -/
def readWhole (read : Reader) (s : List Symbol) : Except Fault Json :=
  match read s with
  | .error f => .error f
  | .ok (value, r) =>
    match skipSpace r with
    | [] => .ok value
    | _ :: _ => .error .malformed

end Codewright.Json
