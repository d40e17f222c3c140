/-
  Log records.

  A record has a level, the part of the program that made it, and a text.  A journal is a list of
  records in the order in which they were made.  A THRESHOLD says how far down records are wanted:
  it admits the levels up to its own, and `off` admits none.
-/

namespace WasmBinary

/-- How severe a record is, most severe first. -/
inductive Level
  | error
  | warn
  | info
  | debug
  | trace
deriving DecidableEq, Repr

namespace Level

/-- More severe levels have lower ranks. -/
def rank : Level → Nat
  | error => 1
  | warn => 2
  | info => 3
  | debug => 4
  | trace => 5

/-- How a level is written. -/
def name : Level → String
  | error => "ERROR"
  | warn => "WARN"
  | info => "INFO"
  | debug => "DEBUG"
  | trace => "TRACE"

end Level

/-- How far down records are wanted. -/
inductive Threshold
  | off
  | upTo (level : Level)
deriving DecidableEq, Repr

namespace Threshold

/-- All thresholds, the most reticent one first. -/
def all : List Threshold :=
  [off, upTo .error, upTo .warn, upTo .info, upTo .debug, upTo .trace]

/-- How many levels are admitted. -/
def rank : Threshold → Nat
  | off => 0
  | upTo level => level.rank

/-- Whether records of a level are wanted. -/
def admits (t : Threshold) (level : Level) : Bool :=
  level.rank ≤ t.rank

/-- The more reticent of two thresholds. -/
def min (s t : Threshold) : Threshold :=
  if s.rank ≤ t.rank then s else t

/-- How a threshold is written. -/
def name : Threshold → String
  | off => "OFF"
  | upTo level => level.name

/-- Reads the name of a threshold, in capitals or not. -/
def ofName? (text : String) : Option Threshold :=
  all.find? (·.name == text.toUpper)

end Threshold

/-- The parts of the program that make records. -/
inductive Source
  | builder
  | rules
  | writer
  | sections
  | audit
  | oracle
  | session
  | compiler
deriving DecidableEq, Repr

/-- The path under which a part signs its records. -/
def Source.label : Source → String
  | builder => "wasm_codec::builder"
  | rules => "wasm_codec::syntax::modules"
  | writer => "wasm_codec::binary::modules"
  | sections => "wasm_codec::binary::sections"
  | audit => "wasm_codec::valid"
  | oracle => "wasm_codec::valid::oracle"
  | session => "wasm_fixtures"
  | compiler => "wasm_fixtures::oracle"

/-- One entry of a log. -/
structure Record where
  level : Level
  source : Source
  text : String
deriving DecidableEq, Repr

/-- A record as a line: the level in a column of five characters, the source in brackets. -/
def Record.line (r : Record) : String :=
  String.ofList (r.level.name.toList.rightpad 5 ' ') ++ " [" ++ r.source.label ++ "] " ++ r.text

/-- A line behind the time since the start: seconds in a column of four characters, a point, and
    three digits of milliseconds. -/
def Record.stampedLine (r : Record) (milliseconds : Nat) : String :=
  let seconds := (Nat.toDigits 10 (milliseconds / 1000)).leftpad 4 ' '
  let fraction := (Nat.toDigits 10 (milliseconds % 1000)).leftpad 3 '0'
  String.ofList (seconds ++ ['.'] ++ fraction) ++ " " ++ r.line

/-- Records in the order in which they were made. -/
abbrev Journal := List Record

/-- The records that a threshold admits. -/
def Journal.admittedBy (t : Threshold) (j : Journal) : Journal :=
  j.filter fun r => t.admits r.level

end WasmBinary
