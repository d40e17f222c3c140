/-
  Configuration, read from environment variables.

  1. Seven variables are looked at, and no others.  Each one that is not set leaves the default of
     its field; an output path or a program name that is empty counts as not set.

  2. A variable whose value cannot be read is an error.  The variables are read in a fixed order,
     and the first one at fault is told, whatever the others hold.

  3. QUIET comes last and overrides what the others asked for: only errors are logged at most,
     nothing is printed, and no oracle is asked.  It does not hide their errors, and it leaves the
     output path, the program and the time limit alone.
-/
import WasmBinary.Journal.Record
import WasmBinary.Text.Blank
import WasmBinary.Text.Quoted

namespace WasmBinary

/-- What can be set, one variable each, in the order in which the variables are read. -/
inductive Setting
  | log
  | output
  | validateOnly
  | noOracle
  | program
  | timeout
  | quiet
deriving DecidableEq, Repr

/-- The variable that holds a setting. -/
def Setting.key : Setting → String
  | log => "WASM_FIXTURES_LOG"
  | output => "WASM_FIXTURES_OUT"
  | validateOnly => "WASM_FIXTURES_VALIDATE_ONLY"
  | noOracle => "WASM_FIXTURES_NO_ORACLE"
  | program => "WAT2WASM"
  | timeout => "WAT2WASM_TIMEOUT_MS"
  | quiet => "WASM_FIXTURES_QUIET"

/-- All settings. -/
def Setting.all : List Setting :=
  [.log, .output, .validateOnly, .noOracle, .program, .timeout, .quiet]

/-- The values of variables, where they are set. -/
abbrev Environment := String → Option String

/-- What a run does. -/
structure Config where
  /-- How far down records are written to the error stream. -/
  threshold : Threshold := .upTo .info
  /-- Where the binary is written, if anywhere. -/
  output : Option String := none
  /-- Whether the listings of the bytes are left out. -/
  validateOnly : Bool := false
  /-- Whether the reference compiler is asked. -/
  oracle : Bool := true
  /-- The reference compiler. -/
  program : String := "wat2wasm"
  /-- How many milliseconds the reference compiler may take. -/
  timeout : Nat := 10000
  /-- Whether nothing is printed but errors. -/
  quiet : Bool := false
deriving DecidableEq, Repr

/-- A setting whose value cannot be read. -/
inductive ConfigError
  | unknownLevel (value : String)
  | notABoolean (setting : Setting) (value : String)
  | notANumber (value : String)
deriving DecidableEq, Repr

namespace ConfigError

/-- The setting at fault. -/
def setting : ConfigError → Setting
  | unknownLevel _ => .log
  | notABoolean v _ => v
  | notANumber _ => .timeout

/-- What is wrong with its value. -/
def complaint : ConfigError → String
  | unknownLevel value => "unknown level " ++ Quoted.text value
  | notABoolean _ value => "expected a boolean, got " ++ Quoted.text value
  | notANumber value => "not a number: " ++ Quoted.text value

/-- How the error is told. -/
def message (e : ConfigError) : String :=
  "bad configuration: " ++ e.setting.key ++ ": " ++ e.complaint

end ConfigError

namespace Config

/-! ## Values -/

/-- Reads a flag; blanks around it and capitals do not matter, and no text is no. -/
def flag? (value : String) : Option Bool :=
  let word := (String.ofList (Blank.trim value.toList)).toLower
  if word ∈ ["", "0", "false", "no"] then some false
  else if word ∈ ["1", "true", "yes"] then some true
  else none

/-- Reads a 64-bit number: decimal digits, behind one plus sign at most. -/
def word64? (value : String) : Option Nat :=
  let digits := match value.toList with
    | '+' :: rest => rest
    | whole => whole
  if digits ≠ [] ∧ digits.all Char.isDigit then
    let n := Nat.ofDigitChars 10 digits 0
    if n < UInt64.size then some n else none
  else none

/-! ## Settings -/

/-- The value of a setting that counts as not set when it is empty. -/
def nonempty? (env : Environment) (v : Setting) : Option String :=
  (env v.key).filter (· ≠ "")

/-- The threshold asked for. -/
def readThreshold (env : Environment) (default : Threshold) : Except ConfigError Threshold :=
  match env Setting.log.key with
  | none => .ok default
  | some value =>
      match Threshold.ofName? value with
      | some t => .ok t
      | none => .error (.unknownLevel value)

/-- The flag that a setting holds. -/
def readFlag (env : Environment) (v : Setting) : Except ConfigError Bool :=
  match env v.key with
  | none => .ok false
  | some value =>
      match flag? value with
      | some b => .ok b
      | none => .error (.notABoolean v value)

/-- The time limit asked for. -/
def readTimeout (env : Environment) (default : Nat) : Except ConfigError Nat :=
  match env Setting.timeout.key with
  | none => .ok default
  | some value =>
      match word64? value with
      | some n => .ok n
      | none => .error (.notANumber value)

/-! ## The whole -/

/-- Logs errors at most, prints nothing and asks no oracle. -/
def hush (c : Config) : Config :=
  { c with threshold := c.threshold.min (.upTo .error), validateOnly := true, oracle := false }

/-- Reads the configuration from an environment. -/
def ofEnvironment (env : Environment) : Except ConfigError Config := do
  let default : Config := {}
  let threshold ← readThreshold env default.threshold
  let validateOnly ← readFlag env .validateOnly
  let noOracle ← readFlag env .noOracle
  let timeout ← readTimeout env default.timeout
  let quiet ← readFlag env .quiet
  let config : Config :=
    { threshold
      output := nonempty? env .output
      validateOnly
      oracle := !noOracle
      program := (nonempty? env .program).getD default.program
      timeout
      quiet }
  return if quiet then config.hush else config

end Config

end WasmBinary
