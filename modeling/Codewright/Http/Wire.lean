import Codewright.Http.Message

/-!
# Messages on the wire

How a request is written for a connection that serves nothing else, and how the response is read
from the bytes that arrive until the connection closes.
-/

namespace Codewright.Http

/-! ## Writing -/

/-- The host and the port as a request names them. -/
def Url.authority (u : Url) : String :=
  String.ofList (((u.host.map Host.chars).getD []) ++
    marked ':' (u.port.map (Nat.toDigits 10)))

/-- The lines before the body of a request, with the length of the body. -/
def Outgoing.head (r : Outgoing) (length : Nat) : String :=
  let own := r.headers.map fun h => (h.name, h.value)
  let more := [("host", r.url.authority), ("accept", "*/*"), ("connection", "close"),
    ("content-length", toString length)]
  let lines := (own ++ more).map fun (name, value) => name ++ ": " ++ value ++ "\r\n"
  r.method.word ++ " " ++ r.url.target ++ " HTTP/1.1\r\n" ++ String.join lines ++ "\r\n"

/-- A request as it is sent. -/
def Outgoing.bytes (r : Outgoing) : ByteArray :=
  let body := r.body.bytes
  (r.head body.size).toUTF8 ++ body

/-! ## Lines -/

/-- The first line and what follows it. A line ends in a line feed, before which a carriage return
may stand. -/
def readLine? (bytes : List UInt8) : Option (List UInt8 × List UInt8) :=
  match bytes.dropWhile (· ≠ 0x0A) with
  | [] => none
  | _ :: rest =>
    let line := bytes.takeWhile (· ≠ 0x0A)
    some (if line.getLast? = some 0x0D then line.dropLast else line, rest)

theorem length_of_readLine {bytes line rest : List UInt8}
    (h : readLine? bytes = some (line, rest)) : rest.length < bytes.length := by
  have hle := (List.dropWhile_sublist (l := bytes) (p := (· ≠ 0x0A))).length_le
  unfold readLine? at h
  split at h
  · cases h
  · rename_i hd
    simp only [Option.some.injEq, Prod.mk.injEq] at h
    obtain ⟨_, rfl⟩ := h
    simp only [hd, List.length_cons] at hle
    omega

/-- The first line that is not empty, and what follows it. -/
def readFullLine? (bytes : List UInt8) : Option (List UInt8 × List UInt8) :=
  match _h : readLine? bytes with
  | none => none
  | some (line, rest) => if line = [] then readFullLine? rest else some (line, rest)
termination_by bytes.length
decreasing_by exact length_of_readLine _h

theorem length_of_readFullLine {bytes line rest : List UInt8}
    (h : readFullLine? bytes = some (line, rest)) : rest.length < bytes.length := by
  fun_induction readFullLine? bytes with
  | case1 => cases h
  | case2 _ _ hl ih => exact Nat.lt_trans (ih h) (length_of_readLine hl)
  | case3 _ _ _ hl _ =>
    cases h
    exact length_of_readLine hl

/-! ## Heads -/

/-- What stands before the body of a response. -/
structure Head where
  /-- Whether the response is of version 1.1, not 1.0. -/
  isModern : Bool
  status : Nat
  /-- Names, in lower case, and values. -/
  headers : List (String × List UInt8)

/-- Bytes as characters, one for each. -/
def charsOf (bytes : List UInt8) : List Char :=
  bytes.map fun b => Char.ofNat b.toNat

/-- Whether a byte is a space or a tab. -/
def isGap (b : UInt8) : Bool :=
  b = 0x20 || b = 0x09

/-- Bytes without the gaps around them. -/
def trimGaps (bytes : List UInt8) : List UInt8 :=
  ((bytes.dropWhile isGap).reverse.dropWhile isGap).reverse

/-- Whether a byte may stand in a reason or in a value: control characters other than a tab may
not. -/
def isTextByte (b : UInt8) : Bool :=
  b = 0x09 || 0x20 ≤ b && b ≠ 0x7F

/-- Whether a character may stand in a name. -/
def isNameChar (c : Char) : Bool :=
  c.isAlphanum || c ∈ "!#$%&'*+-.^_|~".toList || c.toNat = 0x60

/-- Reads the first line of a response, which tells the version and the status. -/
def readStatus? (line : List UInt8) : Option (Bool × Nat) :=
  match charsOf line with
  | 'H' :: 'T' :: 'T' :: 'P' :: '/' :: '1' :: '.' :: minor :: ' ' :: a :: b :: c :: reason =>
    if (minor = '0' ∨ minor = '1') ∧ (reason = [] ∨ reason.head? = some ' ')
        ∧ line.all isTextByte then
      ((digitsValue? 10 [a, b, c]).filter (100 ≤ ·)).map (minor = '1', ·)
    else none
  | _ => none

/-- Reads a line `name: value`. -/
def readHeader? (line : List UInt8) : Option (String × List UInt8) :=
  match line.takeWhile (· ≠ 0x3A), line.dropWhile (· ≠ 0x3A) with
  | name, _ :: value =>
    if name ≠ [] ∧ (charsOf name).all isNameChar ∧ value.all isTextByte then
      some ((String.ofList (charsOf name)).toLower, trimGaps value)
    else none
  | _, [] => none

/-- Reads headers up to an empty line. -/
def readHeaders? (bytes : List UInt8) : Option (List (String × List UInt8) × List UInt8) :=
  match _h : readLine? bytes with
  | none => none
  | some (line, rest) =>
    if line = [] then some ([], rest)
    else
      match readHeader? line with
      | none => none
      | some header => (readHeaders? rest).map fun (headers, rest) => (header :: headers, rest)
termination_by bytes.length
decreasing_by exact length_of_readLine _h

theorem length_of_readHeaders {bytes rest : List UInt8} {headers : List (String × List UInt8)}
    (h : readHeaders? bytes = some (headers, rest)) : rest.length < bytes.length := by
  fun_induction readHeaders? bytes generalizing headers with
  | case1 => cases h
  | case2 _ _ hl =>
    cases h
    exact length_of_readLine hl
  | case3 => cases h
  | case4 _ _ _ hl _ _ _ ih =>
    obtain ⟨⟨hs, r⟩, hr, he⟩ := Option.map_eq_some_iff.1 h
    cases he
    exact Nat.lt_trans (ih hr) (length_of_readLine hl)

/-- The number of headers that are accepted. -/
def maxHeaders : Nat := 100

/-- Reads the head of a response; what follows it is the rest. -/
def Head.read? (bytes : List UInt8) : Option (Head × List UInt8) :=
  match readFullLine? bytes with
  | none => none
  | some (line, rest) =>
    match readStatus? line, readHeaders? rest with
    | some (isModern, status), some (headers, rest) =>
      if headers.length ≤ maxHeaders then some ({ isModern, status, headers }, rest) else none
    | _, _ => none

theorem Head.length_of_read {bytes rest : List UInt8} {head : Head}
    (h : Head.read? bytes = some (head, rest)) : rest.length < bytes.length := by
  unfold Head.read? at h
  split at h
  · cases h
  · rename_i hl
    split at h
    · rename_i hh
      split at h
      · cases h
        exact Nat.lt_trans (length_of_readHeaders hh) (length_of_readFullLine hl)
      · cases h
    · cases h

/-! ## Bodies -/

/-- How the end of a body is found. -/
inductive Framing where
  /-- There is no body. -/
  | bare
  /-- The body comes in chunks with a size before each. -/
  | chunked
  /-- The length is known. -/
  | counted (length : Nat)
  /-- The body ends with the connection. -/
  | toEnd
  deriving DecidableEq, Repr

/-- The items of a list whose values are lines with commas, if all is plain text. -/
def items? (values : List (List UInt8)) : Option (List (List UInt8)) :=
  if values.all (·.all (· < 0x80)) then
    some ((values.flatMap (Text.pieces (· = 0x2C))).map trimGaps)
  else none

/-- The length that all items agree on. -/
def agreedLength? (items : List (List UInt8)) : Option Nat :=
  match items with
  | [] => none
  | first :: _ =>
    if first ≠ [] ∧ items.all (· ≠ []) then
      match items.mapM fun item => digitsValue? 10 (charsOf item) with
      | some (n :: ns) => if ns.all (· = n) ∧ n ≤ maxLength then some n else none
      | _ => none
    else none
where
  /-- The longest body that can be announced. -/
  maxLength : Nat := 0xFFFFFFFFFFFFFFFD

/-- The values of a header. -/
def Head.values (h : Head) (name : String) : List (List UInt8) :=
  (h.headers.filter (·.1 = name)).map (·.2)

/-- How the body of a response is framed, if the headers say so without contradiction. -/
def Head.framing? (h : Head) : Option Framing :=
  let codings := h.values "transfer-encoding"
  let lengths := h.values "content-length"
  if h.status < 200 ∨ h.status = 204 ∨ h.status = 304 then some .bare
  else if codings ≠ [] then
    if ¬ h.isModern then none
    else
      let last := ((codings.getLast?.bind fun line => items? [line]).bind (·.getLast?)).getD []
      if (String.ofList (charsOf last)).toLower = "chunked" then some .chunked else some .toEnd
  else if lengths ≠ [] then ((items? lengths).bind agreedLength?).map .counted
  else some .toEnd

/-- Reads the line before a chunk: a size, behind which an extension may stand. -/
def chunkSize? (line : List UInt8) : Option Nat :=
  let isDigit (b : UInt8) : Bool := (hexDigitValue? (Char.ofNat b.toNat)).isSome
  let digits := line.takeWhile isDigit
  let more := (line.dropWhile isDigit).dropWhile isGap
  if digits ≠ [] ∧ (more = [] ∨ more.head? = some 0x3B) then
    (digitsValue? 16 (charsOf digits)).filter (· ≤ 0xFFFFFFFFFFFFFFFF)
  else none

/-- Reads a body in chunks, and whether it broke off. Behind the last chunk, which is empty, headers
may follow. -/
def readChunks (bytes : List UInt8) : List UInt8 × Bool :=
  match _h : readLine? bytes with
  | none => ([], true)
  | some (line, content) =>
    match chunkSize? line with
    | none => ([], true)
    | some 0 => ([], (readHeaders? content).isNone)
    | some n =>
      if content.length < n then (content, true)
      else
        match content.drop n with
        | 0x0D :: 0x0A :: next =>
          if _hn : next.length < bytes.length then
            let (rest, brokenOff) := readChunks next
            (content.take n ++ rest, brokenOff)
          else (content.take n, true)
        | _ => (content.take n, true)
termination_by bytes.length

/-- Reads the body that follows a head, and whether it broke off. -/
def Framing.read (f : Framing) (bytes : List UInt8) : List UInt8 × Bool :=
  match f with
  | bare => ([], false)
  | chunked => readChunks bytes
  | counted length => (bytes.take length, bytes.length < length)
  | toEnd => (bytes, false)

/-! ## Responses -/

/-- Reads a response. Responses that only announce it are passed over. -/
def Response.ofBytes? (bytes : List UInt8) : Option Response :=
  match _h : Head.read? bytes with
  | none => none
  | some (head, rest) =>
    if isInterim head.status then Response.ofBytes? rest
    else
      head.framing?.map fun framing =>
        let (body, brokenOff) := framing.read rest
        { status := head.status, body, brokenOff }
termination_by bytes.length
decreasing_by exact Head.length_of_read _h

/-- The final response: a response that only announces another one has no body, and what follows
its head is read as the next response. -/
def Response.final? (r : Response) : Option Response :=
  if isInterim r.status then Response.ofBytes? r.body
  else if 100 ≤ r.status ∧ r.status ≤ 999 then some r
  else none

end Codewright.Http
