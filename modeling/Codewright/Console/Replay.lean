import Codewright.Console.Run

/-!
# Answering questions one by one

An operation asks its surroundings questions. Here the answers are on a tape. An operation that asks
more than the tape answers is not finished: the first question without an answer is known
afterwards, and when somebody has answered it the operation starts anew with a longer tape. It does
the same things up to there, because it depends on nothing but the answers.
-/

namespace Codewright.Console

open Chat (Event)
open Http (Outgoing Response)
open Service (Exchanged)
open Session (LogEntry Operation Running)

/-- Something that is asked of the surroundings. -/
inductive Question where
  | exchange (request : Outgoing)
  | wait (ms : Nat)

/-- What came of it: perhaps a response, and whether the user interrupted. -/
structure Answer where
  response : Option Response := none
  interrupted : Bool := false

/-- Answers that have not been used yet, and the first question that was not answered. -/
structure Tape where
  answers : List Answer := []
  question : Option Question := none
  /-- Draws the ids. -/
  generator : StdGen

namespace Tape

/-- Looks up the answer to a question. -/
def ask (t : Tape) (q : Question) : Answer × Tape :=
  match t.question, t.answers with
  | none, a :: rest => (a, { t with answers := rest })
  | none, [] => ({}, { t with question := some q })
  | some _, _ => ({}, t)

/-- The response to a request. -/
def exchange (t : Tape) (r : Outgoing) : Exchanged Tape (Option Response) :=
  let (a, t) := t.ask (.exchange r)
  { result := a.response, interrupted := a.interrupted, outside := t }

/-- Lets time pass. -/
def wait (t : Tape) (ms : Nat) : Exchanged Tape Unit :=
  let (a, t) := t.ask (.wait ms)
  { result := (), interrupted := a.interrupted, outside := t }

end Tape

/-! ## Random ids -/

/-- Draws `n` hexadecimal digits. -/
def randomDigits (g : StdGen) : Nat → List Char × StdGen
  | 0 => ([], g)
  | n + 1 =>
    let (d, g) := randNat g 0 15
    let (ds, g) := randomDigits g n
    (Json.hexDigit d :: ds, g)

/-- Draws a random id: 32 digits in five groups, of which one tells the version and one the
variant. -/
def randomId (g : StdGen) : String × StdGen :=
  let (ds, g) := randomDigits g 30
  let (v, g) := randNat g 8 11
  let group (start length : Nat) : List Char := (ds.drop start).take length
  (String.ofList (group 0 8 ++ ['-'] ++ group 8 4 ++ ['-', '4'] ++ group 12 3 ++
    ['-', Json.hexDigit v] ++ group 15 3 ++ ['-'] ++ group 18 12), g)

/-- An id that has not been used yet, as far as chance goes. -/
def Tape.freshId (t : Tape) : String × Tape :=
  let (id, generator) := randomId t.generator
  (id, { t with generator })

/-! ## Replaying -/

/-- Surroundings that answer from a tape. -/
def taped (endpoint : String) : Surroundings Tape :=
  .overHttp endpoint Tape.exchange Tape.wait Tape.freshId

/-- Whether a log entry tells of a question: pauses do, and calls that could be sent. -/
def isQuestion (endpoint : String) : LogEntry → Bool
  | .call c _ =>
    match (c.request endpoint).prepare with
    | .ok _ => true
    | .error _ => false
  | .waited _ => true
  | .event _ => false

/-- The events before the question that comes after `n` others. -/
def eventsBefore (endpoint : String) : Nat → List LogEntry → List Event
  | _, [] => []
  | n, .event e :: rest => e :: eventsBefore endpoint n rest
  | n, entry :: rest =>
    match isQuestion endpoint entry, n with
    | false, n => eventsBefore endpoint n rest
    | true, 0 => []
    | true, n + 1 => eventsBefore endpoint n rest

/-- How far an operation came. -/
structure Progress where
  question : Option Question
  events : List Event
  running : Running (Watched Tape)

/-- Carries out an operation with the answers that there are. -/
def replay (endpoint : String) (o : Operation (Watched Tape) Unit) (answers : List Answer)
    (r : Running (Watched Tape)) : Progress :=
  let tape := { r.world.outside.outside with answers, question := none }
  let r := { r with world := { r.world with log := [], outside := { outside := tape } } }
  let (_, r) := o.run.run r
  { question := r.world.outside.outside.question
    events := eventsBefore endpoint answers.length r.world.log.reverse
    running := r }

end Codewright.Console
