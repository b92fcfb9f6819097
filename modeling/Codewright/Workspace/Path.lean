import Codewright.Text.Utf8

/-!
# Paths

A path has a base, kept as it was configured, and the names below it. Names are bytes.
-/

namespace Codewright.Workspace

/-- The name of a file or directory. -/
abbrev Name := List UInt8

/-- The byte that separates names. -/
def slash : UInt8 := 0x2F

/-- A base as it was given, and names below it. -/
structure Path where
  base : List UInt8
  names : List Name := []
  deriving DecidableEq, Repr

namespace Path

/-- Puts a name behind a path; an empty path and one that ends with a slash need none between. -/
def joinName (path : List UInt8) (name : Name) : List UInt8 :=
  if path = [] || path.getLast? = some slash then path ++ name else path ++ slash :: name

/-- Names with slashes between them. -/
def joinNames : List Name → List UInt8
  | [] => []
  | [name] => name
  | name :: rest => name ++ slash :: joinNames rest

/-- The path as bytes. -/
def bytes (p : Path) : List UInt8 :=
  if p.names = [] then p.base else joinName p.base (joinNames p.names)

/-- The path as text. -/
def display (p : Path) : String :=
  Text.lossy p.bytes

/-- The base `s`. -/
def ofText (s : String) : Path :=
  ⟨Text.bytes s, []⟩

/-- The path of a name below `p`. -/
def child (p : Path) (name : Name) : Path :=
  { p with names := p.names ++ [name] }

/-- The names in a text, which slashes separate. -/
def splitNames : List UInt8 → List Name
  | [] => [[]]
  | b :: rest =>
    if b = slash then [] :: splitNames rest
    else
      match splitNames rest with
      | [] => [[b]]
      | name :: more => (b :: name) :: more

/-- The name that stands for the directory itself. -/
def here : Name := [0x2E]

/-- The name that stands for the directory above. -/
def up : Name := [0x2E, 0x2E]

/-- The names of a base, without empty ones and dots at its end. -/
def baseNames (base : List UInt8) : List Name :=
  match splitNames base with
  | [] => []
  | first :: rest => first :: (rest.reverse.dropWhile fun n => n = [] || n = here).reverse

/-- A base without slashes and dots at its end; the root directory stays. -/
def trimBase (base : List UInt8) : List UInt8 :=
  match baseNames base with
  | [[]] => if base = [] then [] else [slash]
  | names => joinNames names

/-- The path of the directory that holds a path, if the path is not the root directory or empty. -/
def parent? (p : Path) : Option Path :=
  match p.names with
  | [] =>
    match baseNames p.base with
    | [] => none
    | [[]] => none
    | [_] => some ⟨[], []⟩
    | [[], _] => some ⟨[slash], []⟩
    | names => some ⟨trimBase (joinNames names.dropLast), []⟩
  | [_] => some ⟨trimBase p.base, []⟩
  | names => some { p with names := names.dropLast }

end Path

end Codewright.Workspace
