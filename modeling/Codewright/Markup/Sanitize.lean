import Codewright.Markup.Element

/-!
# Text without markup

A plan is shown as text, so nothing in it may be read as markup: elements with code in them go as a
whole, then comments, then the remaining tags, and the angle brackets that are left are escaped.
-/

namespace Codewright.Markup

/-- An angle bracket is written as an entity, any other character as itself. -/
def escapeChar (c : Char) : List Char :=
  if c = '<' then ['&', 'l', 't', ';'] else if c = '>' then ['&', 'g', 't', ';'] else [c]

/-- The text with its angle brackets escaped. -/
def escape (s : List Char) : List Char :=
  s.flatMap escapeChar

/-- The text without elements, comments and tags; single angle brackets may remain. -/
def strip (s : List Char) : List Char :=
  tag.deleteAll (comment.deleteAll (codeElement.deleteAll s))

/-- The text of `s`, without markup. -/
def sanitize (s : String) : String :=
  String.ofList (escape (strip s.toList))

end Codewright.Markup
