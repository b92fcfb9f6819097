import Codewright.Http.Host

/-!
# URLs

A URL is read leniently, in the way browsers do: case, escapes, `.` and `..` in paths, and the
spelling of hosts are evened out, and in the schemes of networks a backslash is a slash. The letter
of a drive, which some paths of files start with, cannot be left by going up.
-/

namespace Codewright.Http

/-- The path of a URL. -/
inductive UrlPath where
  /-- Segments, each behind a slash. -/
  | segments (names : List (List Char))
  /-- A text without structure. -/
  | flat (text : List Char)
  deriving DecidableEq, Repr

/-- The text of a path. -/
def UrlPath.chars : UrlPath → List Char
  | segments names => names.flatMap ('/' :: ·)
  | flat text => text

/-- Who asks, as it is written in a URL. -/
structure Credentials where
  user : List Char := []
  password : Option (List Char) := none
  deriving DecidableEq, Repr

/-- A URL. -/
structure Url where
  scheme : String
  credentials : Credentials := {}
  /-- The host; an empty name if the URL has slashes for one but names none. -/
  host : Option Host := none
  /-- The port, if it is not the usual one of the scheme. -/
  port : Option Nat := none
  path : UrlPath := .segments []
  query : Option (List Char) := none
  fragment : Option (List Char) := none
  deriving DecidableEq, Repr

namespace Url

/-! ## Parts -/

/-- The usual port of a scheme that is at home in a network. -/
def usualPort? (scheme : String) : Option Nat :=
  if scheme = "http" ∨ scheme = "ws" then some 80
  else if scheme = "https" ∨ scheme = "wss" then some 443
  else if scheme = "ftp" then some 21
  else none

/-- Whether a backslash is a slash in the URLs of a scheme. -/
def takesBackslash (scheme : String) : Bool :=
  (usualPort? scheme).isSome || scheme = "file"

/-- Whether `c` is a slash in the URLs of a scheme. -/
def isSlash (scheme : String) (c : Char) : Bool :=
  c = '/' || c = '\\' && takesBackslash scheme

/-- The characters that are encoded in a path. -/
def pathEscapes : List Char := [' ', '"', '#', '<', '>', '?', '`', '\x7b', '\x7d']

/-- The characters that are encoded in credentials. -/
def credentialEscapes : List Char :=
  pathEscapes ++ ['/', ':', ';', '=', '@', '[', '\\', ']', '^', '|']

/-- The characters that are encoded in a query. -/
def queryEscapes (scheme : String) : List Char :=
  [' ', '"', '#', '<', '>'] ++ if takesBackslash scheme then ['\''] else []

/-- The characters that are encoded in a fragment. -/
def fragmentEscapes : List Char := [' ', '"', '<', '>', '`']

/-- The text before the first `mark`, and the text behind it if there is one. -/
def splitAtMark (mark : Char) (cs : List Char) : List Char × Option (List Char) :=
  match cs.dropWhile (· ≠ mark) with
  | [] => (cs, none)
  | _ :: behind => (cs.takeWhile (· ≠ mark), some behind)

/-- The scheme, in lower case, and what follows its colon. -/
def splitScheme? (cs : List Char) : Option (String × List Char) :=
  let isSchemeChar (c : Char) : Bool := c.isAlphanum || c = '+' || c = '-' || c = '.'
  match cs with
  | [] => none
  | c :: _ =>
    match c.isAlpha, cs.dropWhile isSchemeChar with
    | true, ':' :: rest =>
      some (String.ofList ((cs.takeWhile isSchemeChar).map Char.toLower), rest)
    | _, _ => none

/-- The text before the last `@`, if there is one, and the text behind it. -/
def splitAtLastAt (cs : List Char) : Option (List Char) × List Char :=
  let behind := (cs.reverse.takeWhile (· ≠ '@')).reverse
  if '@' ∈ cs then (some (cs.take (cs.length - behind.length - 1)), behind) else (none, cs)

/-- Reads credentials. An empty password is none. -/
def readCredentials (cs : List Char) : Credentials :=
  let encode := percentEncode credentialEscapes
  match splitAtMark ':' cs with
  | (user, some (c :: rest)) => ⟨encode user, some (encode (c :: rest))⟩
  | (user, _) => ⟨encode user, none⟩

/-- The text before the first colon outside brackets, and the text behind it. -/
def splitPort (bracketed : Bool) : List Char → List Char × Option (List Char)
  | [] => ([], none)
  | c :: rest =>
    if c = ':' ∧ ¬ bracketed then ([], some rest)
    else
      let bracketed := if c = '[' then true else if c = ']' then false else bracketed
      let (host, port) := splitPort bracketed rest
      (c :: host, port)

/-- Reads the number of a port, behind which a backslash may follow. Nothing, like the usual port,
leaves the port out. -/
def readPort? (scheme : String) (cs : List Char) : Option (Option Nat × List Char) :=
  let rest := cs.dropWhile Char.isDigit
  if rest ≠ [] ∧ rest.head? ≠ some '\\' then none
  else
    match digitsValue? 10 (cs.takeWhile Char.isDigit) with
    | none => none
    | some n =>
      if 65535 < n then none
      else if rest.length = cs.length ∨ usualPort? scheme = some n then some (none, rest)
      else some (some n, rest)

/-- What stands between the slashes and the path. -/
structure Authority where
  credentials : Credentials
  host : Host
  port : Option Nat

/-- Reads an authority; what follows it is the path. Where a scheme is at home in a network there
has to be a host, and elsewhere at least if there are credentials or a port. `isLast` tells whether
nothing follows the path. -/
def readAuthority? (scheme : String) (isLast : Bool) (cs : List Char) :
    Option (Authority × List Char) :=
  let isNetwork := (usualPort? scheme).isSome
  let text := cs.takeWhile (!isSlash scheme ·)
  let path := cs.dropWhile (!isSlash scheme ·)
  let (userinfo, hostAndPort) := splitAtLastAt text
  let credentials := readCredentials (userinfo.getD [])
  let (hostText, portText) := splitPort false hostAndPort
  if hostText = [] then
    let isBroken := userinfo = some [] && !(isLast && path = [])
    if isNetwork ∨ portText.isSome ∨ credentials ≠ {} ∨ isBroken then none
    else some (⟨credentials, .name "", none⟩, path)
  else
    match if isNetwork then Host.read? hostText else Host.readOther? hostText with
    | none => none
    | some host =>
      match portText with
      | none => some (⟨credentials, host, none⟩, path)
      | some text => (readPort? scheme text).map fun (port, rest) =>
          (⟨credentials, host, port⟩, rest ++ path)

/-! ## Paths -/

/-- A segment in which encoded full stops are plain ones. -/
def plainDots : List Char → List Char
  | [] => []
  | '%' :: '2' :: 'e' :: rest => '.' :: plainDots rest
  | '%' :: '2' :: 'E' :: rest => '.' :: plainDots rest
  | c :: rest => c :: plainDots rest

/-- Whether a segment stands for the directory it is in. -/
def isDot (segment : List Char) : Bool := plainDots segment = ['.']

/-- Whether a segment stands for the directory above. -/
def isDoubleDot (segment : List Char) : Bool := plainDots segment = ['.', '.']

/-- Whether a text is the letter of a drive, with a colon or a bar. -/
def isDrive : List Char → Bool
  | [c, mark] => c.isAlpha && (mark = ':' || mark = '|')
  | _ => false

/-- Whether a segment is the letter of a drive, perhaps with more behind a backslash. -/
def opensDrive (segment : List Char) : Bool :=
  isDrive (segment.take 2) && (segment.length = 2 || segment[2]? = some '\\')

/-- Goes up from a path, given last segment first. A drive is not left. -/
def goUp : List (List Char) → List (List Char)
  | [] => []
  | s :: above => if opensDrive s then s :: above else above

/-- A segment behind a path; the drive that a path of files starts with has a colon. -/
def standing (isFile : Bool) (above : List (List Char)) (segment : List Char) : List Char :=
  if isFile ∧ above = [] ∧ isDrive segment then segment.take 1 ++ [':'] else segment

/-- Follows segments from a path, given last segment first. A path that ends in a directory ends in
an empty segment. -/
def follow (isFile : Bool) : List (List Char) → List (List Char) → List (List Char)
  | above, [] => above.reverse
  | above, [last] =>
    if isDoubleDot last then ([] :: goUp above).reverse
    else if isDot last then ([] :: above).reverse
    else (standing isFile above last :: above).reverse
  | above, s :: rest =>
    if isDoubleDot s then follow isFile (goUp above) rest
    else if isDot s then follow isFile above rest
    else follow isFile (standing isFile above s :: above) rest

/-- The segments of a text, as they are written. -/
def segments (scheme : String) (cs : List Char) : List (List Char) :=
  (Text.pieces (isSlash scheme) cs).map (percentEncode pathEscapes)

/-- A text without the slash at its start, which may be missing. -/
def dropSlash (scheme : String) : List Char → List Char
  | [] => []
  | c :: rest => if isSlash scheme c then rest else c :: rest

/-- Reads a path, of which the first slash may be missing. -/
def readSegments (scheme : String) (cs : List Char) : List (List Char) :=
  follow false [] (segments scheme (dropSlash scheme cs))

/-- The segments without the empty ones at the start; there is at least one. -/
def dropEmptySegments : List (List Char) → List (List Char)
  | [] :: s :: rest => dropEmptySegments (s :: rest)
  | segments => segments

/-! ## Reading -/

/-- Reads the path of a file from segments. -/
def readFilePath (segments : List (List Char)) : UrlPath :=
  .segments (dropEmptySegments (follow true [] segments))

/-- Whether the path of a file starts with a drive, which has no host. -/
def startsAtDrive (segments : List (List Char)) : Bool :=
  ((follow true [] segments).head?).any isDrive

/-- Reads the part of the URL of a file between its scheme and its query. A path without host keeps
its first slash apart, so that a bar in it stays one. -/
def readFile? (cs : List Char) : Option Url :=
  let isEnd := isSlash "file"
  let segments := segments "file"
  if 2 ≤ (cs.takeWhile isEnd).length then
    let rest := cs.drop 2
    let hostText := rest.takeWhile (!isEnd ·)
    let pathText := rest.dropWhile (!isEnd ·)
    let url (host : Host) (path : List (List Char)) : Url :=
      { scheme := "file", host := some host, path := readFilePath path }
    if isDrive hostText then some (url (.name "") (segments rest))
    else if hostText = [] then some (url (.name "") (segments pathText))
    else
      (Host.read? hostText).map fun host =>
        let path := segments (dropSlash "file" pathText)
        if host = .name "localhost" then url (.name "") (segments pathText)
        else if startsAtDrive path then url (.name "") path
        else url host path
  else
    some { scheme := "file", host := some (.name "")
           path := readFilePath (segments (dropSlash "file" cs)) }

/-- Reads the part of a URL between its scheme and its query; `isLast` tells whether nothing follows
it. -/
def readHierarchy? (scheme : String) (isLast : Bool) (cs : List Char) : Option Url :=
  let slashes := cs.takeWhile (isSlash scheme)
  if (usualPort? scheme).isSome then
    (readAuthority? scheme isLast (cs.drop slashes.length)).map fun (a, path) =>
      { scheme, credentials := a.credentials, host := some a.host, port := a.port
        path := .segments (readSegments scheme path) }
  else if scheme = "file" then readFile? cs
  else if 2 ≤ slashes.length then
    (readAuthority? scheme isLast (cs.drop 2)).map fun (a, path) =>
      { scheme, credentials := a.credentials, host := some a.host, port := a.port
        path := .segments (if path = [] then [] else readSegments scheme path) }
  else if slashes.length = 1 then
    some { scheme, path := .segments (readSegments scheme cs) }
  else
    some { scheme, path := .flat (percentEncode [] cs) }

/-- The text without the control characters and spaces around it, and without tabs and line
ends. -/
def tidy (cs : List Char) : List Char :=
  let isEdge (c : Char) : Bool := c.toNat ≤ 0x20
  (((cs.dropWhile isEdge).reverse.dropWhile isEdge).reverse).filter fun c =>
    c ≠ '\t' ∧ c ≠ '\n' ∧ c ≠ '\r'

/-- Reads a URL. A text without a scheme is none. -/
def parse? (s : String) : Option Url :=
  let (cs, fragment) := splitAtMark '#' (tidy s.toList)
  let (cs, query) := splitAtMark '?' cs
  match splitScheme? cs with
  | none => none
  | some (scheme, rest) =>
    let isLast := query.isNone && fragment.isNone
    (readHierarchy? scheme isLast rest).map fun url => { url with
      query := query.map (percentEncode (queryEscapes scheme))
      fragment := fragment.map (percentEncode fragmentEscapes) }

/-! ## Writing -/

/-- A part behind a mark, if there is one. -/
def marked (mark : Char) : Option (List Char) → List Char
  | none => []
  | some text => mark :: text

/-- The text of credentials, with the `@` behind them if there are any. -/
def credentialChars (c : Credentials) : List Char :=
  if c = {} then [] else c.user ++ marked ':' c.password ++ ['@']

/-- The text of a URL. -/
def chars (u : Url) : List Char :=
  u.scheme.toList ++ [':'] ++
    (match u.host with
      | some host => ['/', '/'] ++ credentialChars u.credentials ++ host.chars
      | none => if ['/', '/'].isPrefixOf u.path.chars then ['/', '.'] else []) ++
    marked ':' (u.port.map (Nat.toDigits 10)) ++ u.path.chars ++
    marked '?' u.query ++ marked '#' u.fragment

/-- The text of a URL. -/
def toText (u : Url) : String :=
  String.ofList u.chars

/-- Whether the URL names a host. -/
def hasHost (u : Url) : Bool :=
  u.host.isSome && u.host ≠ some (.name "")

/-- The text that is encoded in a part of a URL, if it is one. -/
def decodedText? (cs : List Char) : Option (List Char) :=
  Host.characters? (percentDecode cs)

/-- The URL without credentials that can be shown to the host in another way: the name of the user
has to be text, and there has to be a name, or a password that is text. -/
def withoutCredentials (u : Url) : Url :=
  match decodedText? u.credentials.user with
  | none => u
  | some user =>
    if user ≠ [] ∨ (u.credentials.password.bind decodedText?).isSome then
      { u with credentials := {} }
    else u

/-- What a host is asked for: the path and the query. -/
def target (u : Url) : String :=
  String.ofList (u.path.chars ++ marked '?' u.query)

end Url

end Codewright.Http
