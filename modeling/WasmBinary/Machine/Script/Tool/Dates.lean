/-
  Tools for moments: telling them, and giving them to files.

  A moment is the present one, one that words describe, or the one that a file was changed at.
-/
import WasmBinary.Machine.Calendar.Reading
import WasmBinary.Machine.Calendar.Writing
import WasmBinary.Machine.Script.Tool.Paths

namespace WasmBinary.Machine.Script.Tool

open Run Calendar

/-- The zone of the user. -/
def zoneOfUser : Run Zone := do
  match ← entryOf? "TZ" with
  | some v => return .ofVariable (if v.exported then v.value else none)
  | none => return .universal

/-- The moment that a text describes. -/
def momentOf? (text : String) (zone : Zone) : Run (Option Int) :=
  return momentOfText? text (← files).now zone

/-- The moment that digits stand for: month, day, hour and minute, with the year in front or behind
    and seconds behind a point. -/
def momentOfDigits? (text : String) (yearFirst : Bool) (present : Int) (zone : Zone) :
    Option Int := do
  let digits := text.toList.takeWhile Char.isDigit
  let second ← match text.toList.drop digits.length with
    | [] => some 0
    | ['.', a, b] =>
        if a.isDigit && b.isDigit then some (Nat.ofDigitChars 10 [a, b] 0) else none
    | _ => none
  let count := digits.length
  if !([8, 10, 12].contains count) then none
  else
    let (front, back) := if yearFirst then (digits.take (count - 8), digits.drop (count - 8))
      else (digits.drop 8, digits.take 8)
    let pair (i : Nat) : Nat := Nat.ofDigitChars 10 ((back.drop (2 * i)).take 2) 0
    let now := Civil.ofSeconds (Int.fdiv present 1000000000 + zone.offset)
    let n := Nat.ofDigitChars 10 front 0
    let year : Int := match front.length with
      | 0 => now.year
      | 2 => if n < 69 then n + 2000 else n + 1900
      | _ => n
    let c : Civil :=
      { year, month := pair 0, day := pair 1, hour := pair 2, minute := pair 3, second }
    if c.carried ≠ c then none else return (c.seconds - zone.offset) * 1000000000

/-! ## Telling moments -/

/-- Where the moment that is told comes from. -/
inductive DateSource
  | present
  | words (text : String)
  | file (path : String)
  | lines (path : String)

/-- What is to be told. -/
structure DateSettings where
  source : DateSource := .present
  sources : Nat := 0
  universal : Bool := false
  format : Option String := none
  sets : Bool := false

/-- The format of a precision that has a name. -/
def isoFormat (precision : String) : String :=
  match precision with
  | "hours" => "%Y-%m-%dT%H%:z"
  | "minutes" => "%Y-%m-%dT%H:%M%:z"
  | "seconds" => "%Y-%m-%dT%H:%M:%S%:z"
  | "ns" => "%Y-%m-%dT%H:%M:%S,%N%:z"
  | _ => "%Y-%m-%d"

/-- The same with a blank between date and time. -/
def spacedFormat (precision : String) : String :=
  match precision with
  | "seconds" => "%Y-%m-%d %H:%M:%S%:z"
  | "ns" => "%Y-%m-%d %H:%M:%S.%N%:z"
  | _ => "%Y-%m-%d"

namespace DateSettings

/-- Tells a format, of which there can be only one. -/
def withFormat (s : DateSettings) (format : String) : Except Misuse DateSettings :=
  if s.format.isSome then .error (.plain "multiple output formats specified")
  else .ok { s with format := some format }

/-- Tells a source. -/
def withSource (s : DateSettings) (source : DateSource) : DateSettings :=
  { s with source, sources := s.sources + 1 }

/-- The next option of `date`. -/
def step (s : DateSettings) (option : Given) : Except Misuse DateSettings :=
  match option.key with
  | "d" => .ok (s.withSource (.words option.value))
  | "r" => .ok (s.withSource (.file option.value))
  | "f" => .ok (s.withSource (.lines option.value))
  | "s" => .ok { s.withSource (.words option.value) with sets := true }
  | "u" => .ok { s with universal := true }
  | "R" => s.withFormat "%a, %d %b %Y %H:%M:%S %z"
  | "I" => do
      let precision ← if option.valued then
          choiceOf ["hours", "minutes", "date", "seconds", "ns"] option.value "--iso-8601"
        else .ok "date"
      s.withFormat (isoFormat precision)
  | "rfc-3339" => do
      s.withFormat (spacedFormat (← choiceOf ["date", "seconds", "ns"] option.value "--rfc-3339"))
  | "resolution" => s.withFormat "%s.%N"
  | _ => .ok s

end DateSettings

/-- Tells a moment. -/
def tellMoment (zone : Zone) (format : String) (moment : Int) : Run Unit :=
  emit ((Moment.ofNanoseconds moment zone).text format ++ "\n")

/-- Tells moments. -/
def date : Tool := fun self arguments =>
  withSettings
    ("d,date= --debug f,file= I,iso-8601=? r,reference= --resolution R,rfc-email R,rfc-822 " ++
      "R,rfc-2822 --rfc-3339= s,set= u,uct u,utc u,universal")
    {} DateSettings.step self arguments fun s operands => do
      let zone ← if s.universal then pure Zone.universal else zoneOfUser
      let usual := s.format.getD "%a %b %e %H:%M:%S %Z %Y"
      if 1 < s.sources then
        misuse self "the options to specify dates for printing are mutually exclusive"
      else
        match operands with
        | _ :: extra :: _ => misuse self ("extra operand " ++ cited extra)
        | [word] =>
            if word.startsWith "+" then
              if s.format.isSome then fail self "multiple output formats specified"
              else report self s zone (String.ofList (word.toList.drop 1))
            else if 0 < s.sources then
              ({ lines := [ "the argument " ++ cited word ++ " lacks a leading '+';",
                  "when using an option to specify date(s), any non-option",
                  "argument must be a format string beginning with '+'"] } : Misuse).report self 1
            else
              match momentOfDigits? word false (← files).now zone with
              | some moment =>
                  say self "cannot set date: Operation not permitted"
                  tellMoment zone usual moment
                  finish 1
              | none => fail self ("invalid date " ++ cited word)
        | [] => report self s zone usual
where
  /-- Tells the moments that are asked for. -/
  report (self : String) (s : DateSettings) (zone : Zone) (format : String) : Run Unit := do
    match s.source with
    | .present =>
        tellMoment zone format (← files).now
        finish 0
    | .words text =>
        match ← momentOf? text zone with
        | some moment =>
            if s.sets then say self "cannot set date: Operation not permitted"
            tellMoment zone format moment
            finishWith !s.sets
        | none => fail self ("invalid date " ++ cited text)
    | .file path =>
        match ← lookAt path with
        | .ok (_, node) =>
            tellMoment zone format node.changed
            finish 0
        | .error fault => fail self (shown path ++ ": " ++ fault.words)
    | .lines path =>
        match ← readOperand path .whole with
        | .error .isADirectory =>
            fail self (shown path ++ ": read error: " ++ FileFault.isADirectory.words)
        | .error fault => fail self (shown path ++ ": " ++ fault.words)
        | .ok text =>
            forEach (recordsOf '\n' text) fun line => do
              match ← momentOf? line zone with
              | some moment =>
                  tellMoment zone format moment
                  return true
              | none =>
                  say self ("invalid date " ++ cited line)
                  return false

/-! ## Giving moments to files -/

/-- How files are to be touched. -/
structure TouchSettings where
  creates : Bool := true
  follows : Bool := true
  /-- Whether only one of the moments is given. -/
  uses : Bool := false
  changes : Bool := false
  words : Option String := none
  digits : Option String := none
  reference : Option String := none

/-- The next option of `touch`. -/
def TouchSettings.step (s : TouchSettings) (option : Given) : Except Misuse TouchSettings :=
  match option.key with
  | "a" => .ok { s with uses := true }
  | "m" => .ok { s with changes := true }
  | "c" => .ok { s with creates := false }
  | "h" => .ok { s with creates := false, follows := false }
  | "d" => .ok { s with words := some option.value }
  | "t" => .ok { s with digits := some option.value }
  | "r" => .ok { s with reference := some option.value }
  | "time" => do
      match ← choiceOf ["atime|access|use", "mtime|modify"] option.value "--time" with
      | "mtime" | "modify" => return { s with changes := true }
      | _ => return { s with uses := true }
  | _ => .ok s

/-- The moments that options ask for: whether they are the present, that of using, and that of
    changing; or else, what is wrong with them. -/
def momentsOf (s : TouchSettings) (zone : Calendar.Zone) (now : Int) :
    Run (Except String (Bool × Int × Int)) := do
  match s.digits with
  | some digits =>
      return match momentOfDigits? digits true now zone with
        | some moment => .ok (false, moment, moment)
        | none => .error ("invalid date format " ++ cited digits)
  | none =>
      let start : Except String (Bool × Int × Int) ← match s.reference with
        | none => pure (.ok (true, now, now))
        | some path =>
            match ← lookAt path s.follows with
            | .ok (_, node) => pure (.ok (false, node.used, node.changed))
            | .error fault =>
                pure (.error ("failed to get attributes of " ++ quoted path ++ ": " ++ fault.words))
      return match start, s.words with
        | .error text, _ => .error text
        | start, none => start
        | .ok (_, used, changed), some text =>
            match momentOfText? text used zone, momentOfText? text changed zone with
            | some used, some changed => .ok (text = "now", used, changed)
            | _, _ => .error ("invalid date format " ++ cited text)

/-- Gives the moments of using and of changing to a file, which is made if it is not there. -/
def touchOne (self : String) (s : TouchSettings) (present : Bool) (used changed : Int)
    (path : String) : Run Bool := do
  let opened : Option FileFault ← if !s.creates then pure none
    else do
      match ← openPath path .append with
      | .ok _ => pure none
      | .error .isADirectory => pure none
      | .error fault => pure (some fault)
  let both := !s.uses && !s.changes
  match ← lookAt path s.follows with
  | .ok (i, node) =>
      if node.owner = .user || (present && node.allows .write) then
        modifyFiles fun files => files.modify i fun node =>
          { node with
            used := if both || s.uses then used else node.used
            changed := if both || s.changes then changed else node.changed }
        return true
      else
        let fault := if present then FileFault.permissionDenied else .notPermitted
        match opened with
        | some fault => say self ("cannot touch " ++ quoted path ++ ": " ++ fault.words)
        | none => say self ("setting times of " ++ quoted path ++ ": " ++ fault.words)
        return false
  | .error fault =>
      match opened with
      | some fault =>
          say self ("cannot touch " ++ quoted path ++ ": " ++ fault.words)
          return false
      | none =>
          if !s.creates && fault = .notFound then return true
          else
            say self ("setting times of " ++ quoted path ++ ": " ++ fault.words)
            return false

/-- Gives moments to files. -/
def touch : Tool := fun self arguments =>
  withSettings "--time= c,no-create d,date= r,reference= h,no-dereference a m f t=" {}
    TouchSettings.step self arguments fun s operands => do
      let zone ← zoneOfUser
      let now := (← files).now
      if s.digits.isSome && (s.words.isSome || s.reference.isSome) then
        misuse self "cannot specify times from more than one source"
      else
        let moments ← momentsOf s zone now
        match moments with
        | .error text => fail self text
        | .ok (present, used, changed) =>
            if operands.isEmpty then misuse self "missing file operand"
            else forEach operands (touchOne self s present used changed)

end WasmBinary.Machine.Script.Tool
