import Codewright.Text.Blank
import Codewright.Text.Utf8

/-!
# Input of the console

The input is a row of bytes, taken line by line. A line is a command or a message; the white space
around it does not count.
-/

namespace Codewright.Console

/-- What the user asks for in a line. -/
inductive Command where
  /-- Accept the plan and generate code. -/
  | code
  /-- Write the code into the workspace. -/
  | accept
  /-- Pass the last message on once more. -/
  | retry
  | say (message : String)
  deriving DecidableEq, Repr

/-- Reads a line. What is no command is a message, even if it starts like one. -/
def Command.ofLine (line : String) : Command :=
  let line := Text.trim line
  if line = "/code" then code
  else if line = "/accept" then accept
  else if line = "/retry" then retry
  else say line

/-- The byte that ends a line. -/
def lineFeed : UInt8 := 0x0A

/-- The bytes of the lines, and those behind the last end of a line. -/
def splitLines (bytes : List UInt8) : List (List UInt8) × List UInt8 :=
  let pieces := Text.pieces (· = lineFeed) bytes
  (pieces.dropLast, pieces.getLastD [])

/-- A line as text, if its bytes are one. -/
def textOfLine? (bytes : List UInt8) : Option String :=
  ((Text.symbols bytes).mapM id).map String.ofList

/-- The lines of an input. A line that was not finished counts if the input is `complete`; one that
is no text is `none`. -/
def inputLines (complete : Bool) (bytes : List UInt8) : List (Option String) :=
  let (lines, rest) := splitLines bytes
  (lines ++ if complete ∧ rest ≠ [] then [rest] else []).map textOfLine?

end Codewright.Console
