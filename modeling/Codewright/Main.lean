import Codewright.Console.Replay
import Codewright.Http.Wire
import Std.Async.DNS
import Std.Async.Signal
import Std.Async.TCP

/-!
# The program

Reads lines from standard input and writes events to standard output, one per line. All decisions
are made by the console; here its questions are answered: requests go over the network, pauses take
time, and Ctrl-C in the meantime is an interruption. The files of the workspace are read before each
line, and what an accepted change did to them is written afterwards.
-/

namespace Codewright.Main

open Console (Answer Command Question Tape Watched)
open Session (Operation Running)
open Std.Async (Async Signal)
open Std.Net (IPAddr SocketAddress)
open Workspace (Entry FileSystem Location Path)

/-! ## The network -/

/-- The addresses of a host. -/
def addressesOf : Http.Host → Async (Array IPAddr)
  | .ipv4 a =>
    let part (unit : Nat) : UInt8 := UInt8.ofNat (a / unit)
    return #[.v4 (.ofParts (part 0x1000000) (part 0x10000) (part 0x100) (part 1))]
  | .ipv6 groups =>
    let group (n : Nat) : UInt16 := UInt16.ofNat (groups.getD n 0)
    return #[.v6 (.ofParts (group 0) (group 1) (group 2) (group 3) (group 4) (group 5) (group 6)
      (group 7))]
  | .name s => Std.Async.DNS.getAddrInfo s ""

/-- An address with a port. -/
def withPort (port : UInt16) : IPAddr → SocketAddress
  | .v4 addr => .v4 { addr, port }
  | .v6 addr => .v6 { addr, port }

/-- Reads to the end of a connection. -/
partial def readAll (connection : Std.Async.TCP.Socket.Client) (sofar : ByteArray) :
    Async ByteArray := do
  match ← connection.recv? 65536 with
  | none => return sofar
  | some bytes => readAll connection (sofar ++ bytes)

/-- Sends a request to an address and reads what comes back. -/
def exchangeWith (address : SocketAddress) (r : Http.Outgoing) : Async ByteArray := do
  let connection ← Std.Async.TCP.Socket.Client.mk
  connection.connect address
  connection.send r.bytes
  readAll connection ByteArray.empty

/-- The response to a request. Only connections without encryption are made. -/
def responseTo (r : Http.Outgoing) : Async (Option Http.Response) := do
  match r.url.scheme, r.url.host with
  | "http", some host =>
    match (← addressesOf host)[0]? with
    | none => return none
    | some address =>
      let port := UInt16.ofNat (r.url.port.getD 80)
      let bytes ← exchangeWith (withPort port address) r
      return Http.Response.ofBytes? bytes.toList
  | _, _ => return none

/-! ## Questions -/

/-- Waits for the end of a task. -/
partial def untilFinished {α : Type} (task : Task α) : IO Unit := do
  unless ← IO.hasFinished task do
    IO.sleep 5
    untilFinished task

/-- The result of an action, and whether Ctrl-C was pressed in the meantime. The action can ask
whether it has been. -/
def noticing {α : Type} (act : IO Bool → IO α) : IO (Except IO.Error α × Bool) := do
  let signal ← Signal.Waiter.mk .sigint false
  let pressed ← signal.wait
  let task ← IO.asTask (act (IO.hasFinished pressed)) .dedicated
  untilFinished task
  let interrupted ← IO.hasFinished pressed
  signal.stop
  return (task.get, interrupted)

/-- Waits up to a moment, or until something has happened. -/
partial def waitUntil (deadlineMs : Nat) (happened : IO Bool) : IO Unit := do
  let left := deadlineMs - (← IO.monoMsNow)
  unless left = 0 || (← happened) do
    IO.sleep (UInt32.ofNat (min left 20))
    waitUntil deadlineMs happened

/-- The answer to a question. A pause ends early when it is interrupted. -/
def answer : Question → IO Answer
  | .exchange r => do
    let (result, interrupted) ← noticing fun _ => (responseTo r).block
    return { response := result.toOption.join, interrupted }
  | .wait ms => do
    let deadlineMs := (← IO.monoMsNow) + ms
    let (_, interrupted) ← noticing (waitUntil deadlineMs)
    return { interrupted }

/-! ## The workspace -/

/-- The path of a location. -/
def pathOf (loc : Location) : String :=
  Text.lossy (Workspace.slash :: Path.joinNames loc)

/-- A thing on the disk. -/
def itemAt (path : String) : IO.FS.DirEntry where
  root := "/"
  fileName := path

/-- The entries at and below a location. -/
partial def readBelow (item : IO.FS.DirEntry) (loc : Location) :
    IO (List (Location × Entry)) := do
  match (← item.path.symlinkMetadata).type with
  | .dir =>
    let below ← (← item.path.readDir).toList.mapM fun child =>
      readBelow child (loc ++ [child.fileName.toUTF8.toList])
    return (loc, .dir) :: below.flatten
  | .file => return [(loc, .file (← IO.FS.readBinFile item.path))]
  | .symlink => return [(loc, .link (← IO.FS.realPath item.path).toString.toUTF8.toList)]
  | .other => return []

/-- The entries at and below a location, or none if there is nothing to read. -/
def readThere (loc : Location) : IO (List (Location × Entry)) := do
  try readBelow (itemAt (pathOf loc)) loc
  catch _ => return []

/-- What there is at a location, directories without what is in them. -/
def readEntry? (loc : Location) : IO (Option Entry) := do
  let item := itemAt (pathOf loc)
  try
    match (← item.path.symlinkMetadata).type with
    | .dir => return some .dir
    | .file => return some (.file (← IO.FS.readBinFile item.path))
    | .symlink => return some (.link (← IO.FS.realPath item.path).toString.toUTF8.toList)
    | .other => return none
  catch _ => return none

/-- The entries on the way that names lead from a directory, and at its end. -/
partial def readWay (loc : Location) : List Workspace.Name → IO (List (Location × Entry))
  | [] => return []
  | name :: rest => do
    if name = [] || name = Path.here then readWay loc rest
    else if name = Path.up then readWay loc.dropLast rest
    else
      let loc := loc ++ [name]
      match ← readEntry? loc with
      | none => return []
      | some .dir => return (loc, .dir) :: (← readWay loc rest)
      | some (.link target) =>
        return (loc, .link target) :: (← readWay [] (Path.splitNames target ++ rest))
      | some e => return [(loc, e)]

/-- The entries on the way of a path. -/
def readPath (cwd : Location) (p : Path) : IO (List (Location × Entry)) :=
  match Path.splitNames p.bytes with
  | [] :: names => readWay [] names
  | names => do return (← readWay [] cwd) ++ (← readWay cwd names)

/-- The files that say what to ignore, in a directory. -/
def readRules (cwd loc : Location) : IO (List (Location × Entry)) := do
  let way (names : List String) := readPath cwd ⟨[Workspace.slash], loc ++ names.map Text.bytes⟩
  return (← way [".ignore"]) ++ (← way [".gitignore"]) ++ (← way [".git", "info", "exclude"])

/-- The files that a file `.git` with this content leads to. -/
def readRepository (cwd : Location) (content : List UInt8) : IO (List (Location × Entry)) := do
  match Workspace.Excludes.named? content with
  | .ok (some dir) =>
    let entries ← readPath cwd (Workspace.Excludes.pointer dir)
    match Workspace.Excludes.directory? (.ofList cwd entries) content with
    | .ok (some p) => return entries ++ (← readPath cwd (Workspace.Excludes.below p))
    | _ => return entries
  | _ => return []

/-- The files that all files `.git` among some entries lead to. -/
def readRepositories (cwd : Location) (entries : List (Location × Entry)) :
    IO (List (Location × Entry)) := do
  let found ← entries.mapM fun (loc, e) =>
    match e with
    | .file content =>
      if loc.getLast? = some (Text.bytes ".git") then readRepository cwd content.toList
      else pure []
    | _ => pure []
  return found.flatten

/-- The file system, as far as a workspace is concerned. -/
def readFiles (cwd : Location) (root : Path) : IO FileSystem := do
  let way ← readPath cwd root
  match (FileSystem.ofList cwd way).locate .target root with
  | .error _ => return .ofList cwd way
  | .ok loc =>
    let above ← ((List.range loc.length).map loc.take).mapM (readRules cwd)
    let tree ← readThere loc
    let entries := way ++ above.flatten ++ tree
    return .ofList cwd ((← readRepositories cwd entries) ++ entries)

/-- Whether there is a file with this content at a location. -/
def holds (fs : FileSystem) (loc : Location) (content : ByteArray) : Bool :=
  match fs.get? loc with
  | some (.file old) => old.toList = content.toList
  | _ => false

/-- Writes what is different in a new file system. -/
def writeChanges (old new : FileSystem) : IO Unit := do
  for (loc, _) in old.toList do
    if (new.get? loc).isNone then
      IO.FS.removeFile (pathOf loc)
  for (loc, e) in new.toList do
    match e with
    | .file content =>
      unless holds old loc content do
        IO.FS.createDirAll (pathOf loc.dropLast)
        IO.FS.writeBinFile (pathOf loc) content
    | _ => pure ()

/-! ## Lines -/

/-- Carries out an operation, whose events are written as soon as they happen. -/
partial def carryOut (endpoint : String) (o : Operation (Watched Tape) Unit)
    (start : Running (Watched Tape)) (answers : List Answer) (written : Nat) :
    IO (Running (Watched Tape)) := do
  let progress := Console.replay endpoint o answers start
  let stdout ← IO.getStdout
  for e in progress.events.drop written do
    stdout.putStrLn e.line
  stdout.flush
  match progress.question with
  | none => return progress.running
  | some q =>
    carryOut endpoint o start (answers ++ [← answer q]) progress.events.length

/-- Carries out a line. -/
def handleLine (endpoint : String) (cwd : Location) (line : String)
    (r : Running (Watched Tape)) : IO (Running (Watched Tape)) := do
  let files ← readFiles cwd r.session.root
  let o := Console.handleLine (Console.taped endpoint) line
  let r ← carryOut endpoint o { r with world := { r.world with files } } [] 0
  if Command.ofLine line = .accept then
    writeChanges files r.world.files
  return r

/-- The rest of a line, with the line feed if there is one; at the end of the input it is empty. -/
partial def readLine (stdin : IO.FS.Stream) (sofar : List UInt8) : IO (List UInt8) := do
  match (← stdin.read 1).toList with
  | [b] =>
    if b = Console.lineFeed then return (b :: sofar).reverse
    else readLine stdin (b :: sofar)
  | _ => return sofar.reverse

/-- Carries out the lines of the input, up to one that is no text. -/
partial def handleInput (endpoint : String) (cwd : Location) (r : Running (Watched Tape)) :
    IO Unit := do
  let bytes ← readLine (← IO.getStdin) []
  unless bytes.isEmpty do
    match Console.textOfLine? bytes with
    | none => throw (IO.userError "input is not UTF-8")
    | some line => handleInput endpoint cwd (← handleLine endpoint cwd line r)

/-! ## The start -/

/-- The variables that the settings are read from. -/
def variableNames : List String :=
  ["WEAVERBIRD_WORKSPACE", "WEAVERBIRD_ENDPOINT", "WEAVERBIRD_POLL_INTERVAL_MS",
    "WEAVERBIRD_POLL_MAX_ITERATIONS", "WEAVERBIRD_MAX_REPO_SIZE_BYTES", "WEAVERBIRD_RETRIES"]

/-- The values of the variables that are set. -/
def readVariables : IO (List (String × String)) :=
  variableNames.filterMapM fun name => do
    return (← IO.getEnv name).map (name, ·)

/-- A generator of random numbers. -/
def newGenerator : IO StdGen := do
  let bytes ← IO.getRandomBytes 8
  return mkStdGen (bytes.toList.foldl (fun n b => 256 * n + b.toNat) 0)

/-- A session that has just begun. -/
def begin (settings : Settings) (path : String) : IO (Running (Watched Tape)) := do
  let (tabId, generator) := Console.randomId (← newGenerator)
  return Session.new settings (.ofText path) tabId { outside := { generator } } {}

end Codewright.Main

open Codewright Codewright.Main in
/-- Runs the program. -/
def main : IO UInt32 := do
  let values ← readVariables
  match Console.configure (fun name => values.lookup name) with
  | .error e =>
    IO.eprintln ("Error: " ++ e.describe)
    return 1
  | .ok (settings, endpoint) =>
    let cwd ← IO.currentDir
    let root := settings.workspace.getD cwd.toString
    let location := (Workspace.Path.splitNames cwd.toString.toUTF8.toList).filter (· ≠ [])
    try
      handleInput endpoint location (← begin settings root)
      return 0
    catch e =>
      IO.eprintln ("Error: " ++ toString e)
      return 1
