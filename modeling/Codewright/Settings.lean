import Codewright.Session.Polling
import Codewright.Text.Blank
import Codewright.Text.Quoted

/-!
# Settings

The settings of the program come from named variables. A number that is not one is an error and
never replaced by the default.
-/

namespace Codewright

/-- What is wrong with the variables. -/
inductive SettingsError where
  | invalidNumber (name value : String)
  | zero (name : String)
  deriving DecidableEq, Repr

/-- The message of an error. -/
def SettingsError.message : SettingsError → String
  | invalidNumber name value =>
    name ++ " must be a non-negative integer, got " ++ Text.quote value
  | zero name => name ++ " must be greater than zero"

/-- An error with everything that is known about it, for the log. -/
def SettingsError.describe : SettingsError → String
  | invalidNumber name value =>
    "InvalidNumber \x7b name: " ++ Text.quote name ++ ", value: " ++ Text.quote value ++ " \x7d"
  | zero name => "Zero \x7b name: " ++ Text.quote name ++ " \x7d"

/-- What a session is started with. -/
structure Settings where
  /-- The workspace, if it is not the current directory. -/
  workspace : Option String := none
  endpoint : Option String := none
  polling : Session.Polling := {}
  maxRepoSizeBytes : Nat := Session.defaultMaxRepoSizeBytes
  retries : Nat := Session.defaultRetries
  deriving DecidableEq, Repr

namespace Settings

/-- The value of a row of decimal digits, of which there is at least one. -/
def digitsValue? (ds : List Char) : Option Nat :=
  if ds ≠ [] ∧ ds.all Char.isDigit then
    some (ds.foldl (fun n c => 10 * n + (c.toNat - 0x30)) 0)
  else none

/-- Reads a number below `bound`: digits, perhaps behind a plus sign, with white space around. -/
def number? (bound : Nat) (value : String) : Option Nat :=
  let digits :=
    match (Text.trim value).toList with
    | '+' :: ds => ds
    | ds => ds
  match digitsValue? digits with
  | some n => if n < bound then some n else none
  | none => none

/-- The number in a variable, which has to fit 64 bits, or the default if it is not set. -/
def numberOr (lookup : String → Option String) (name : String) (default : Nat) :
    Except SettingsError Nat :=
  match lookup name with
  | none => .ok default
  | some value =>
    match number? 0x10000000000000000 value with
    | some n => .ok n
    | none => .error (.invalidNumber name value)

/-- The number in a variable, which has to fit 32 bits. -/
def smallNumberOr (lookup : String → Option String) (name : String) (default : Nat) :
    Except SettingsError Nat :=
  match numberOr lookup name default with
  | .error e => .error e
  | .ok n => if n < 0x100000000 then .ok n else .error (.invalidNumber name (toString n))

/-- Reads the settings from named variables. -/
def ofLookup (lookup : String → Option String) : Except SettingsError Settings :=
  match numberOr lookup "WEAVERBIRD_POLL_INTERVAL_MS" 10000 with
  | .error e => .error e
  | .ok intervalMs =>
    match smallNumberOr lookup "WEAVERBIRD_POLL_MAX_ITERATIONS" 180 with
    | .error e => .error e
    | .ok 0 => .error (.zero "WEAVERBIRD_POLL_MAX_ITERATIONS")
    | .ok (n + 1) =>
      match numberOr lookup "WEAVERBIRD_MAX_REPO_SIZE_BYTES" Session.defaultMaxRepoSizeBytes with
      | .error e => .error e
      | .ok maxRepoSizeBytes =>
        match smallNumberOr lookup "WEAVERBIRD_RETRIES" Session.defaultRetries with
        | .error e => .error e
        | .ok retries =>
          .ok {
            workspace := lookup "WEAVERBIRD_WORKSPACE"
            endpoint := (lookup "WEAVERBIRD_ENDPOINT").filter (!Text.isBlankText ·)
            polling := ⟨intervalMs, n + 1⟩
            maxRepoSizeBytes
            retries }

end Settings

end Codewright
