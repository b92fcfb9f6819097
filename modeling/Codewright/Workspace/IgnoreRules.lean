import Codewright.Text.Blank
import Codewright.Workspace.Excludes
import Codewright.Workspace.Glob

/-!
# Ignore files

A directory may hold files with rules that say which paths below it are ignored and which are kept
all the same. Within a file the last rule that applies decides. A nearer directory decides before
one further up, and the three kinds of files are asked one after the other.
-/

namespace Codewright.Workspace

/-- A line of an ignore file. -/
structure IgnoreRule where
  pattern : List Glob.Part
  /-- The path is kept, not ignored. -/
  keeps : Bool
  /-- Only directories are meant. -/
  dirsOnly : Bool

namespace IgnoreRule

/-- A line without the white space at its end; an escaped space stays, with all that follows the
text. -/
def trimLine (cs : List Char) : List Char :=
  if ['\\', ' '].isSuffixOf cs then cs else Text.trimRight cs

/-- The pattern in full: one without a slash applies at any depth, and one that ends with two stars
only to what is below the directory. -/
def anchored (absolute : Bool) (cs : List Char) : List Char :=
  let cs :=
    if absolute || cs.contains '/' || cs = ['*', '*'] then cs else ['*', '*', '/'] ++ cs
  if ['/', '*', '*'].isSuffixOf cs then cs ++ ['/', '*'] else cs

/-- Splits the marks at the start of a line off: whether it keeps, whether it starts at the
directory of the file, and the rest. -/
def splitMarks (cs : List Char) : Bool × Bool × List Char :=
  match cs with
  | '\\' :: '!' :: rest => (false, false, '!' :: rest)
  | '\\' :: '#' :: rest => (false, false, '#' :: rest)
  | '!' :: '/' :: rest => (true, true, rest)
  | '!' :: rest => (true, false, rest)
  | '/' :: rest => (false, true, rest)
  | rest => (false, false, rest)

/-- Splits the slash at the end of a pattern off, with a backslash before it. -/
def splitEndSlash (cs : List Char) : Bool × List Char :=
  if cs.getLast? = some '/' then
    let cs := cs.dropLast
    (true, if cs.getLast? = some '\\' then cs.dropLast else cs)
  else (false, cs)

/-- Reads a line: nothing for a comment or a blank line, and an error for a bad pattern. -/
def ofLine (line : List Char) : Except Unit (Option IgnoreRule) :=
  if line.head? = some '#' then .ok none
  else
    let line := trimLine line
    if line.isEmpty then .ok none
    else
      let (keeps, absolute, cs) := splitMarks line
      let (dirsOnly, cs) := splitEndSlash cs
      match Glob.ofText? (anchored absolute cs) with
      | none => .error ()
      | some pattern => .ok (some ⟨pattern, keeps, dirsOnly⟩)

/-- Whether the rule applies to a path. -/
def applies (r : IgnoreRule) (path : List UInt8) (isDir : Bool) : Bool :=
  (isDir || !r.dirsOnly) && Glob.isMatch r.pattern path

end IgnoreRule

/-- The rules of one file, and whether something in it is wrong. -/
structure IgnoreFile where
  rules : List IgnoreRule := []
  hasFault : Bool := false

namespace IgnoreFile

/-- A line without the carriage return at its end. -/
def dropReturn (line : List Text.Symbol) : List Text.Symbol :=
  if line.getLast? = some (some '\r') then line.dropLast else line

/-- The lines of a file. A carriage return before a line end belongs to the end. -/
def lines (content : List UInt8) : List (List Text.Symbol) :=
  let pieces := Text.pieces (· = some '\n') (Text.symbols content)
  let ended := pieces.dropLast.map dropReturn
  match pieces.getLast? with
  | none => ended
  | some [] => ended
  | some rest => ended ++ [rest]

/-- The lines of a file up to one that is not text. -/
def textLines (content : List UInt8) : List (List Char) :=
  ((lines content).takeWhile fun line => line.all Option.isSome).map (·.filterMap id)

/-- The lines without a byte order mark at the start. -/
def dropMark : List (List Char) → List (List Char)
  | [] => []
  | line :: rest => line.dropWhile (· = '\ufeff') :: rest

/-- Reads a file. A line with a bad pattern has no rule; a pattern that is nested too deeply makes
the whole file void. -/
def ofBytes (content : List UInt8) : IgnoreFile :=
  let results := (dropMark (textLines content)).map IgnoreRule.ofLine
  let rules := results.filterMap fun
    | .ok rule => rule
    | .error () => none
  if rules.any fun r => Glob.isTooDeep r.pattern then { hasFault := true }
  else
    { rules
      hasFault := results.any fun
        | .ok _ => false
        | .error () => true }

/-- The rules in what could be read; there are none otherwise. -/
def ofContent : Except IoError ByteArray → IgnoreFile
  | .ok content => ofBytes content.toList
  | .error _ => {}

/-- Reads the excludes of a repository, given the path of its `.git` and what is there. -/
def loadExcludes (fs : FileSystem) (git : Path) (e : Entry) : IgnoreFile :=
  match Excludes.file? fs git e with
  | .error () => { hasFault := true }
  | .ok none => {}
  | .ok (some p) => ofContent (fs.readFile p)

/-- What the rules say about a path: whether it is kept, if one applies. -/
def verdict? (f : IgnoreFile) (path : List UInt8) (isDir : Bool) : Option Bool :=
  (f.rules.reverse.find? (·.applies path isDir)).map (·.keeps)

end IgnoreFile

/-- The rules that belong to a directory, by the kind of file they come from. -/
structure IgnoreFiles where
  /-- The path of the directory, by which paths below it are recognised. -/
  dir : List UInt8
  plain : IgnoreFile := {}
  git : IgnoreFile := {}
  exclude : IgnoreFile := {}

namespace IgnoreFiles

/-- The current directory and a slash. -/
def herePrefix : List UInt8 := Path.here ++ [slash]

/-- A path without a certain beginning, if it has it. -/
def strip (start path : List UInt8) : List UInt8 :=
  (start.isPrefixOf? path).getD path

/-- Whether a path is a spelling of the current directory. -/
def isHere (path : List UInt8) : Bool :=
  match Path.splitNames path with
  | first :: rest => first = Path.here && rest.all fun n => n = [] || n = Path.here
  | [] => false

/-- Reads the rules of a directory, of which `entryOf` tells the entries. -/
def load (fs : FileSystem) (dir : Path) (entryOf : Name → Option Entry) : IgnoreFiles :=
  let fileOf (name : String) (read : Path → Entry → IgnoreFile) : IgnoreFile :=
    match entryOf (Text.bytes name) with
    | none => {}
    | some e => read (dir.child (Text.bytes name)) e
  { dir := strip herePrefix dir.bytes
    plain := fileOf ".ignore" fun p e => .ofContent (fs.readEntry p e)
    git := fileOf ".gitignore" fun p e => .ofContent (fs.readEntry p e)
    exclude := fileOf ".git" (.loadExcludes fs) }

/-- Whether there are no rules. -/
def isEmpty (f : IgnoreFiles) : Bool :=
  f.plain.rules.isEmpty && f.git.rules.isEmpty && f.exclude.rules.isEmpty

/-- Whether something is wrong in one of the files. -/
def hasFault (f : IgnoreFiles) : Bool :=
  f.plain.hasFault || f.git.hasFault || f.exclude.hasFault

/-- The path that the rules are applied to: the part below the directory. A path without slashes
is a name and stays as it is, and nothing is to be left out for the current directory. -/
def relative (f : IgnoreFiles) (path : List UInt8) : List UInt8 :=
  let path := strip herePrefix path
  if isHere f.dir || !path.contains slash then path
  else
    match f.dir.isPrefixOf? path with
    | none => path
    | some rest => strip [slash] rest

/-- What the rules of one kind say about an entry: whether it is kept, if one applies. -/
def verdict? (f : IgnoreFiles) (kind : IgnoreFiles → IgnoreFile) (path : List UInt8)
    (isDir : Bool) : Option Bool :=
  if (kind f).rules.isEmpty then none else (kind f).verdict? (f.relative path) isDir

end IgnoreFiles

/-- The rules that bear on a directory. -/
structure IgnoreChain where
  /-- The root from which the paths of entries start, as it is written. -/
  root : List UInt8
  /-- The full path of the root. -/
  base : List UInt8 := []
  /-- The rules of the directories from the root down, nearest first. -/
  within : List IgnoreFiles := []
  /-- The rules of the directories above the root, nearest first. -/
  above : List IgnoreFiles := []

namespace IgnoreChain

/-- The chain below a directory with rules of its own. -/
def descend (chain : IgnoreChain) (files : IgnoreFiles) : IgnoreChain :=
  if files.isEmpty then chain else { chain with within := files :: chain.within }

/-- The full path of something below the root. -/
def fullPath (chain : IgnoreChain) (path : List UInt8) : List UInt8 :=
  let below :=
    if IgnoreFiles.isHere chain.root then path
    else
      IgnoreFiles.strip [slash]
        (IgnoreFiles.strip (IgnoreFiles.strip IgnoreFiles.herePrefix chain.root) path)
  if below.head? = some slash then below else Path.joinName chain.base below

/-- What the nearest file of one kind that has a rule says about an entry. -/
def verdictOf (chain : IgnoreChain) (kind : IgnoreFiles → IgnoreFile) (path : List UInt8)
    (isDir : Bool) : Option Bool :=
  let path := IgnoreFiles.strip IgnoreFiles.herePrefix path
  (chain.within.findSome? (·.verdict? kind path isDir)).or
    (chain.above.findSome? (·.verdict? kind (chain.fullPath path) isDir))

/-- What the rules say about the entry at a path: whether it is kept, if one applies. -/
def verdict? (chain : IgnoreChain) (path : List UInt8) (isDir : Bool) : Option Bool :=
  (chain.verdictOf (·.plain) path isDir).or
    ((chain.verdictOf (·.git) path isDir).or (chain.verdictOf (·.exclude) path isDir))

/-- Whether the entry of this name at a path is left out. Where no rule applies, hidden entries
are. -/
def skips (chain : IgnoreChain) (path : List UInt8) (name : Name) (isDir : Bool) : Bool :=
  match chain.verdict? path isDir with
  | some keeps => !keeps
  | none => name.head? = some 0x2E

end IgnoreChain

end Codewright.Workspace
