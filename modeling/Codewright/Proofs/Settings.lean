import Mathlib.Data.Nat.Digits.Defs
import Codewright.Settings
import Codewright.Proofs.Text.Trim

/-!
# What the variables settle

Each variable that holds a number is unset, or writes a number that it may hold, or is at fault. The
settings are read exactly if no variable is at fault, and then they are what the variables say; the
first variable at fault is the one that an error names.
-/

namespace Codewright.Settings

open Text (isBlank)

variable {ds : List Char} {value : String} {n bound : Nat}

/-! ## Numbers in texts -/

/-- The number that decimal digits stand for. -/
def decimal (digits : List Char) : Nat :=
  Nat.ofDigits 10 (digits.reverse.map fun c => c.toNat - '0'.toNat)

/-- A text writes a number: in decimal digits, of which there is at least one, perhaps behind a plus
sign, with white space around. -/
inductive Writes : String → Nat → Prop where
  | intro {value : String} (before sign digits after : List Char)
      (text : value.toList = before ++ (sign ++ digits) ++ after)
      (blank_before : ∀ c ∈ before, isBlank c = true)
      (blank_after : ∀ c ∈ after, isBlank c = true)
      (plus : sign = [] ∨ sign = ['+'])
      (ne_nil : digits ≠ [])
      (digit : ∀ c ∈ digits, c.isDigit = true) : Writes value (decimal digits)

theorem digitsValue?_eq_some_iff :
    digitsValue? ds = some n ↔ ds ≠ [] ∧ (∀ c ∈ ds, c.isDigit = true) ∧ n = decimal ds := by
  have hvalue : ds.foldl (fun n c => 10 * n + (c.toNat - 0x30)) 0 = decimal ds := by
    rw [decimal, Nat.ofDigits_eq_foldr, List.map_reverse, List.foldr_reverse, List.foldl_map]
    exact congrArg (ds.foldl · 0) (funext₂ fun _ _ => Nat.add_comm ..)
  rw [digitsValue?, hvalue]
  split
  · rename_i h
    obtain ⟨hne, hall⟩ := h
    rw [Option.some_inj]
    exact ⟨fun heq => ⟨hne, List.all_eq_true.mp hall, heq.symm⟩, fun ⟨_, _, heq⟩ => heq.symm⟩
  · rename_i h
    exact ⟨nofun, fun ⟨hne, hdigit, _⟩ => absurd ⟨hne, List.all_eq_true.mpr hdigit⟩ h⟩

theorem isBlank_of_isDigit {c : Char} (h : c.isDigit = true) : isBlank c = false := by
  simp only [Char.isDigit, Bool.and_eq_true, decide_eq_true_eq, ge_iff_le, UInt32.le_iff_toNat_le]
    at h
  have hlow : 48 ≤ c.toNat := h.1
  have hhigh : c.toNat ≤ 57 := h.2
  simp only [isBlank, Bool.or_eq_false_iff, Bool.and_eq_false_imp, decide_eq_true_eq,
    decide_eq_false_iff_not]
  omega

theorem exists_sign (text : List Char) :
    ∃ sign, (sign = [] ∨ sign = ['+']) ∧
      text = sign ++ match text with | '+' :: ds => ds | ds => ds := by
  split
  · exact ⟨['+'], .inr rfl, rfl⟩
  · exact ⟨[], .inl rfl, rfl⟩

/-- Exactly the texts that write a number below the bound are read, as that number. -/
theorem number?_eq_some_iff : number? bound value = some n ↔ Writes value n ∧ n < bound := by
  constructor
  · intro h
    obtain ⟨before, after, hpad, hbefore, hafter⟩ := Text.exists_padding value
    rw [number?] at h
    generalize (Text.trim value).toList = text at h hpad
    obtain ⟨sign, plus, htext⟩ := exists_sign text
    rw [htext] at hpad
    split at h
    · rename_i k hk
      split at h
      · rename_i hlt
        cases h
        obtain ⟨hne, hdigit, rfl⟩ := digitsValue?_eq_some_iff.mp hk
        exact ⟨.intro before sign _ after hpad hbefore hafter plus hne hdigit, hlt⟩
      · cases h
    · cases h
  · rintro ⟨⟨before, sign, digits, after, text, hbefore, hafter, plus, hne, hdigit⟩, hlt⟩
    have hsolid : ∀ c ∈ sign ++ digits, isBlank c = false := by
      intro c hc
      rcases List.mem_append.mp hc with hc | hc
      · rcases plus with rfl | rfl
        · cases hc
        · exact List.mem_singleton.mp hc ▸ by decide
      · exact isBlank_of_isDigit (hdigit c hc)
    have hvalue : digitsValue? (match sign ++ digits with | '+' :: ds => ds | ds => ds) =
        some (decimal digits) := by
      refine digitsValue?_eq_some_iff.mpr ?_
      rcases plus with rfl | rfl
      · rw [List.nil_append]
        split
        · exact absurd (hdigit '+' (.head _)) (by decide)
        · exact ⟨hne, hdigit, rfl⟩
      · exact ⟨hne, hdigit, rfl⟩
    rw [number?, Text.trim_of_padded text hbefore hafter hsolid]
    split
    · rename_i k hk
      cases hvalue.symm.trans hk
      exact if_pos hlt
    · rename_i hk
      cases hvalue.symm.trans hk

theorem number?_eq_none_iff : number? bound value = none ↔ ∀ n, Writes value n → bound ≤ n := by
  simp only [Option.eq_none_iff_forall_ne_some, ne_eq, number?_eq_some_iff, not_and, not_lt]

/-! ## Variables -/

/-- The variables that hold numbers, in the order in which they are read. -/
inductive Variable where
  | interval
  | iterations
  | size
  | retries
  deriving DecidableEq, Repr

namespace Variable

variable {lookup : String → Option String} {v w : Variable} {e : SettingsError} {s : Settings}

def name : Variable → String
  | interval => "WEAVERBIRD_POLL_INTERVAL_MS"
  | iterations => "WEAVERBIRD_POLL_MAX_ITERATIONS"
  | size => "WEAVERBIRD_MAX_REPO_SIZE_BYTES"
  | retries => "WEAVERBIRD_RETRIES"

/-- The number of bits that the number has to fit. -/
def bits : Variable → Nat
  | interval | size => 64
  | iterations | retries => 32

/-- The setting that the variable decides. -/
def setting (s : Settings) : Variable → Nat
  | interval => s.polling.intervalMs
  | iterations => s.polling.maxIterations
  | size => s.maxRepoSizeBytes
  | retries => s.retries

/-- The numbers that the variable may hold. -/
def Admits (v : Variable) (n : Nat) : Prop :=
  n < 2 ^ v.bits ∧ (v = iterations → n ≠ 0)

/-- `w` is read before `v`. -/
def Precedes (w v : Variable) : Prop :=
  w.ctorIdx < v.ctorIdx

instance (w v : Variable) : Decidable (w.Precedes v) :=
  inferInstanceAs (Decidable (_ < _))

/-- The variable is unset or writes a number that it may hold. -/
def Sound (lookup : String → Option String) (v : Variable) : Prop :=
  lookup v.name = none ∨ ∃ text n, lookup v.name = some text ∧ Writes text n ∧ v.Admits n

/-- The number that the variable settles: what it writes, or the default if it is unset. -/
inductive Settles (lookup : String → Option String) (v : Variable) : Nat → Prop where
  | unset : lookup v.name = none → Settles lookup v (v.setting {})
  | set {text : String} {n : Nat} : lookup v.name = some text → Writes text n → v.Admits n →
      Settles lookup v n

/-- How the variable is at fault: it writes no number of 64 bits, one that is too large for it, or
zero where there has to be more. -/
inductive Fault (lookup : String → Option String) (v : Variable) : SettingsError → Prop where
  | malformed {text : String} : lookup v.name = some text → (∀ n, Writes text n → 2 ^ 64 ≤ n) →
      Fault lookup v (.invalidNumber v.name text)
  | tooLarge {text : String} {n : Nat} : lookup v.name = some text → Writes text n → n < 2 ^ 64 →
      2 ^ v.bits ≤ n → Fault lookup v (.invalidNumber v.name (toString n))
  | zero {text : String} : v = iterations → lookup v.name = some text → Writes text 0 →
      Fault lookup v (.zero v.name)

/-- Every default is a number that its variable may hold. -/
theorem admits_default (v : Variable) : v.Admits (v.setting {}) := by
  cases v <;> exact ⟨by decide, by decide⟩

theorem sound_iff : v.Sound lookup ↔ ∃ n, v.Settles lookup n := by
  constructor
  · rintro (hnone | ⟨text, n, htext, hwrites, hadmits⟩)
    · exact ⟨_, .unset hnone⟩
    · exact ⟨n, .set htext hwrites hadmits⟩
  · rintro ⟨_, hnone | ⟨htext, hwrites, hadmits⟩⟩
    · exact .inl hnone
    · exact .inr ⟨_, _, htext, hwrites, hadmits⟩

/-! ## Reading one variable -/

/-- Reads a variable. Any number has to fit 64 bits first; one that does is told in its own digits,
and not as it was written, if it does not fit fewer bits. -/
def read (lookup : String → Option String) (v : Variable) : Except SettingsError Nat :=
  match lookup v.name with
  | none => .ok (v.setting {})
  | some text =>
    match number? (2 ^ 64) text with
    | none => .error (.invalidNumber v.name text)
    | some n =>
      if 2 ^ v.bits ≤ n then .error (.invalidNumber v.name (toString n))
      else if v = iterations ∧ n = 0 then .error (.zero v.name)
      else .ok n

theorem lt_of_admits (h : v.Admits n) : n < 2 ^ 64 := by
  have hbits : v.bits ≤ 64 := by cases v <;> decide
  exact Nat.lt_of_lt_of_le h.1 (Nat.pow_le_pow_right (by decide) hbits)

/-- What is read is settled by the variable, and an error is a fault of it. -/
theorem read_spec (lookup : String → Option String) (v : Variable) :
    match v.read lookup with
    | .ok n => v.Settles lookup n
    | .error e => v.Fault lookup e := by
  rw [read]
  cases htext : lookup v.name with
  | none => exact .unset htext
  | some text =>
      dsimp only
      cases hnumber : number? (2 ^ 64) text with
      | none => exact .malformed htext (number?_eq_none_iff.mp hnumber)
      | some n =>
          obtain ⟨hwrites, hlt⟩ := number?_eq_some_iff.mp hnumber
          dsimp only
          by_cases hlarge : 2 ^ v.bits ≤ n
          · rw [if_pos hlarge]
            exact .tooLarge htext hwrites hlt hlarge
          rw [if_neg hlarge]
          by_cases hzero : v = iterations ∧ n = 0
          · rw [if_pos hzero]
            exact .zero hzero.1 htext (hzero.2 ▸ hwrites)
          · rw [if_neg hzero]
            exact .set htext hwrites ⟨Nat.lt_of_not_le hlarge, fun hv hn => hzero ⟨hv, hn⟩⟩

theorem Settles.read_eq (h : v.Settles lookup n) : v.read lookup = .ok n := by
  rcases h with hnone | ⟨htext, hwrites, hadmits⟩
  · rw [read, hnone]
  · have hnumber := number?_eq_some_iff.mpr ⟨hwrites, lt_of_admits hadmits⟩
    have hzero : ¬ (v = iterations ∧ n = 0) := fun ⟨hv, hn⟩ => hadmits.2 hv hn
    rw [read, htext]
    dsimp only
    rw [hnumber]
    dsimp only
    rw [if_neg (Nat.not_le_of_lt hadmits.1), if_neg hzero]

theorem Fault.read_eq (h : v.Fault lookup e) : v.read lookup = .error e := by
  rcases h with ⟨htext, hnone⟩ | ⟨htext, hwrites, hlt, hlarge⟩ | ⟨hv, htext, hwrites⟩
  · rw [read, htext]
    dsimp only
    rw [number?_eq_none_iff.mpr hnone]
  · rw [read, htext]
    dsimp only
    rw [number?_eq_some_iff.mpr ⟨hwrites, hlt⟩]
    exact if_pos hlarge
  · rw [read, htext]
    dsimp only
    rw [number?_eq_some_iff.mpr ⟨hwrites, by decide⟩]
    dsimp only
    rw [if_neg (Nat.not_le_of_lt (Nat.two_pow_pos _)), if_pos ⟨hv, rfl⟩]

theorem read_eq_ok_iff : v.read lookup = .ok n ↔ v.Settles lookup n := by
  refine ⟨fun h => ?_, Settles.read_eq⟩
  have hspec := read_spec lookup v
  rwa [h] at hspec

theorem read_eq_error_iff : v.read lookup = .error e ↔ v.Fault lookup e := by
  refine ⟨fun h => ?_, Fault.read_eq⟩
  have hspec := read_spec lookup v
  rwa [h] at hspec

theorem sound_iff_read : v.Sound lookup ↔ ∃ n, v.read lookup = .ok n := by
  simp only [sound_iff, read_eq_ok_iff]

theorem read_wide (hv : v.bits = 64) :
    v.read lookup = numberOr lookup v.name (v.setting {}) := by
  rw [read, numberOr]
  cases lookup v.name with
  | none => rfl
  | some text =>
      dsimp only
      cases hnumber : number? (2 ^ 64) text with
      | none => rfl
      | some n =>
          have hlt : n < 2 ^ v.bits := hv ▸ (number?_eq_some_iff.mp hnumber).2
          have hne : ¬ (v = iterations ∧ n = 0) := by
            rintro ⟨rfl, -⟩
            cases hv
          dsimp only
          rw [if_neg (Nat.not_le_of_lt hlt), if_neg hne]

theorem read_narrow (hv : v.bits = 32) :
    v.read lookup =
      match smallNumberOr lookup v.name (v.setting {}) with
      | .error e => .error e
      | .ok n => if v = iterations ∧ n = 0 then .error (.zero v.name) else .ok n := by
  rw [read, smallNumberOr, numberOr]
  cases lookup v.name with
  | none =>
      obtain ⟨hlt, hne⟩ := admits_default v
      have hlt' : v.setting {} < 0x100000000 := by rwa [hv] at hlt
      dsimp only
      rw [if_pos hlt']
      dsimp only
      rw [if_neg fun ⟨hv, hn⟩ => hne hv hn]
  | some text =>
      dsimp only
      cases hnumber : number? (2 ^ 64) text with
      | none => rfl
      | some n =>
          have hpow : 2 ^ v.bits = 0x100000000 := by
            rw [hv]
            rfl
          dsimp only
          rw [hpow]
          by_cases hlt : n < 0x100000000
          · rw [if_neg (Nat.not_le_of_lt hlt), if_pos hlt]
          · rw [if_pos (Nat.le_of_not_lt hlt), if_neg hlt]

end Variable

/-- The variables are read one after the other. -/
theorem ofLookup_eq (lookup : String → Option String) :
    ofLookup lookup = do
      let intervalMs ← Variable.interval.read lookup
      let maxIterations ← Variable.iterations.read lookup
      let maxRepoSizeBytes ← Variable.size.read lookup
      let retries ← Variable.retries.read lookup
      return {
        workspace := lookup "WEAVERBIRD_WORKSPACE"
        endpoint := (lookup "WEAVERBIRD_ENDPOINT").filter (!Text.isBlankText ·)
        polling := ⟨intervalMs, maxIterations⟩
        maxRepoSizeBytes
        retries } := by
  have hinterval : Variable.interval.read lookup =
      numberOr lookup "WEAVERBIRD_POLL_INTERVAL_MS" 10000 :=
    Variable.read_wide rfl
  have hsize : Variable.size.read lookup =
      numberOr lookup "WEAVERBIRD_MAX_REPO_SIZE_BYTES" Session.defaultMaxRepoSizeBytes :=
    Variable.read_wide rfl
  have hiterations : Variable.iterations.read lookup = _ := Variable.read_narrow rfl
  have hretries : Variable.retries.read lookup = _ := Variable.read_narrow rfl
  rw [ofLookup, hinterval, hiterations, hsize, hretries]
  cases numberOr lookup "WEAVERBIRD_POLL_INTERVAL_MS" 10000 with
  | error e => rfl
  | ok intervalMs =>
      dsimp only [Variable.name, Variable.setting]
      cases smallNumberOr lookup "WEAVERBIRD_POLL_MAX_ITERATIONS" 180 with
      | error e => rfl
      | ok maxIterations =>
          cases maxIterations with
          | zero => rfl
          | succ n =>
              cases numberOr lookup "WEAVERBIRD_MAX_REPO_SIZE_BYTES"
                Session.defaultMaxRepoSizeBytes with
              | error e => rfl
              | ok maxRepoSizeBytes =>
                  cases smallNumberOr lookup "WEAVERBIRD_RETRIES" Session.defaultRetries with
                  | error e => rfl
                  | ok retries => rfl

/-! ## Reading all variables -/

section Except

variable {ε α β : Type} {x : Except ε α} {f : α → Except ε β}

theorem bind_eq_ok_iff {b : β} : x >>= f = .ok b ↔ ∃ a, x = .ok a ∧ f a = .ok b := by
  cases x with
  | error e => exact ⟨nofun, nofun⟩
  | ok a => exact ⟨fun h => ⟨a, rfl, h⟩, fun ⟨_, ha, h⟩ => Except.ok.inj ha ▸ h⟩

theorem bind_eq_error_iff {e : ε} :
    x >>= f = .error e ↔ x = .error e ∨ ∃ a, x = .ok a ∧ f a = .error e := by
  cases x with
  | error e' =>
      constructor
      · intro h
        cases h
        exact .inl rfl
      · rintro (h | ⟨_, ha, -⟩)
        · cases h
          rfl
        · cases ha
  | ok a =>
      refine ⟨fun h => .inr ⟨a, rfl, h⟩, ?_⟩
      rintro (h | ⟨_, ha, h⟩)
      · cases h
      · exact Except.ok.inj ha ▸ h

end Except

variable {lookup : String → Option String} {s : Settings} {e : SettingsError}

theorem ofLookup_eq_ok_iff :
    ofLookup lookup = .ok s ↔
      s.workspace = lookup "WEAVERBIRD_WORKSPACE" ∧
      s.endpoint = (lookup "WEAVERBIRD_ENDPOINT").filter (!Text.isBlankText ·) ∧
      ∀ v : Variable, v.read lookup = .ok (v.setting s) := by
  rw [ofLookup_eq]
  simp only [bind_eq_ok_iff]
  constructor
  · rintro ⟨a, ha, b, hb, c, hc, d, hd, hs⟩
    cases hs
    refine ⟨rfl, rfl, fun v => ?_⟩
    cases v with
    | interval => exact ha
    | iterations => exact hb
    | size => exact hc
    | retries => exact hd
  · obtain ⟨workspace, endpoint, ⟨intervalMs, maxIterations⟩, maxRepoSizeBytes, retries⟩ := s
    rintro ⟨rfl, rfl, hread⟩
    exact ⟨_, hread .interval, _, hread .iterations, _, hread .size, _, hread .retries, rfl⟩

/-- The first variable that cannot be read is the one that counts. -/
theorem ofLookup_eq_error_iff :
    ofLookup lookup = .error e ↔
      ∃ v : Variable, v.read lookup = .error e ∧
        ∀ w : Variable, w.Precedes v → ∃ n, w.read lookup = .ok n := by
  rw [ofLookup_eq]
  simp only [bind_eq_error_iff]
  constructor
  · rintro (h | ⟨a, ha, h | ⟨b, hb, h | ⟨c, hc, h | ⟨d, hd, h⟩⟩⟩⟩)
    · refine ⟨.interval, h, fun w hw => ?_⟩
      cases w with
      | _ => exact absurd hw (by decide)
    · refine ⟨.iterations, h, fun w hw => ?_⟩
      cases w with
      | interval => exact ⟨a, ha⟩
      | _ => exact absurd hw (by decide)
    · refine ⟨.size, h, fun w hw => ?_⟩
      cases w with
      | interval => exact ⟨a, ha⟩
      | iterations => exact ⟨b, hb⟩
      | _ => exact absurd hw (by decide)
    · refine ⟨.retries, h, fun w hw => ?_⟩
      cases w with
      | interval => exact ⟨a, ha⟩
      | iterations => exact ⟨b, hb⟩
      | size => exact ⟨c, hc⟩
      | retries => exact absurd hw (by decide)
    · cases h
  · rintro ⟨v, h, hbefore⟩
    cases v with
    | interval => exact .inl h
    | iterations =>
        obtain ⟨a, ha⟩ := hbefore .interval (by decide)
        exact .inr ⟨a, ha, .inl h⟩
    | size =>
        obtain ⟨a, ha⟩ := hbefore .interval (by decide)
        obtain ⟨b, hb⟩ := hbefore .iterations (by decide)
        exact .inr ⟨a, ha, .inr ⟨b, hb, .inl h⟩⟩
    | retries =>
        obtain ⟨a, ha⟩ := hbefore .interval (by decide)
        obtain ⟨b, hb⟩ := hbefore .iterations (by decide)
        obtain ⟨c, hc⟩ := hbefore .size (by decide)
        exact .inr ⟨a, ha, .inr ⟨b, hb, .inr ⟨c, hc, .inl h⟩⟩⟩

/-- An endpoint is one that is set and not blank. -/
theorem eq_filter_iff {endpoint? text? : Option String} :
    endpoint? = text?.filter (!Text.isBlankText ·) ↔
      ∀ endpoint, endpoint? = some endpoint ↔
        text? = some endpoint ∧ ∃ c ∈ endpoint.toList, isBlank c = false := by
  rw [Option.ext_iff]
  simp only [Option.filter_eq_some_iff, Text.isBlankText, Bool.not_eq_true', List.all_eq_false,
    Bool.not_eq_true]

/-- The settings are read exactly if every variable is sound. Each of them is then what its variable
settles, and an endpoint is one that is not blank. Otherwise the error tells what is wrong with the
first variable that is not sound. -/
theorem ofLookup_exact (lookup : String → Option String) :
    ((∃ s, ofLookup lookup = .ok s) ↔ ∀ v : Variable, v.Sound lookup) ∧
    (∀ s, ofLookup lookup = .ok s ↔
      s.workspace = lookup "WEAVERBIRD_WORKSPACE" ∧
      (∀ endpoint, s.endpoint = some endpoint ↔
        lookup "WEAVERBIRD_ENDPOINT" = some endpoint ∧
          ∃ c ∈ endpoint.toList, isBlank c = false) ∧
      ∀ v : Variable, v.Settles lookup (v.setting s)) ∧
    ∀ e, ofLookup lookup = .error e ↔
      ∃ v : Variable, ¬ v.Sound lookup ∧ (∀ w : Variable, w.Precedes v → w.Sound lookup) ∧
        v.Fault lookup e := by
  have herror : ∀ e, ofLookup lookup = .error e ↔
      ∃ v : Variable, ¬ v.Sound lookup ∧ (∀ w : Variable, w.Precedes v → w.Sound lookup) ∧
        v.Fault lookup e := by
    intro e
    simp only [ofLookup_eq_error_iff, ← Variable.sound_iff_read, Variable.read_eq_error_iff]
    refine exists_congr fun v => ⟨fun ⟨hv, hbefore⟩ => ⟨?_, hbefore, hv⟩,
      fun ⟨_, hbefore, hv⟩ => ⟨hv, hbefore⟩⟩
    rw [Variable.sound_iff_read]
    rintro ⟨n, hn⟩
    cases hn.symm.trans (Variable.read_eq_error_iff.mpr hv)
  refine ⟨⟨fun ⟨s, hs⟩ v => ?_, fun hsound => ?_⟩, fun s => ?_, herror⟩
  · obtain ⟨-, -, hread⟩ := ofLookup_eq_ok_iff.mp hs
    exact Variable.sound_iff_read.mpr ⟨_, hread v⟩
  · cases h : ofLookup lookup with
    | ok s => exact ⟨s, rfl⟩
    | error e =>
        obtain ⟨v, hv, -⟩ := (herror e).mp h
        exact absurd (hsound v) hv
  · simp only [ofLookup_eq_ok_iff, eq_filter_iff, Variable.read_eq_ok_iff]

/-- Of two variables at fault the first one counts. -/
example : ofLookup (fun name => if name = "WEAVERBIRD_POLL_MAX_ITERATIONS" then some " +000 "
    else if name = "WEAVERBIRD_RETRIES" then some "-1" else none) =
      .error (.zero "WEAVERBIRD_POLL_MAX_ITERATIONS") := by
  decide +kernel

end Codewright.Settings
