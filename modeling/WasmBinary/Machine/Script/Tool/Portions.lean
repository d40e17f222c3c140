/-
  Showing the front or the end of files.

  1. **Portions** — what is wanted is a number of lines or bytes, or everything but these.

  2. **Headings** name the files where there are several of them, or where that is wanted.

  3. **Old forms** — a number may stand right behind a hyphen or a plus sign, with letters behind it
     that mean units and options.
-/
import WasmBinary.Machine.Script.Tool.Basic

namespace WasmBinary.Machine.Script.Tool

open Run

/-! ## Portions -/

/-- How much of a text is wanted. -/
structure Portion where
  bytes : Bool := false
  count : Nat := 10
  /-- Whether everything else is wanted: all but the end, or all from some place on. -/
  others : Bool := false
  /-- Whether headings are wanted, where that does not depend on the number of files. -/
  headings : Option Bool := none
  ending : Char := '\n'
  /-- Whether what comes later is wanted as well. -/
  waits : Bool := false
  /-- Whether files are known by their names while they are waited for. -/
  byName : Bool := false
  retries : Bool := false
  /-- The process that is to be alive while anything is waited for. -/
  process : Option Nat := none

namespace Portion

/-- Sets a number of lines or bytes. -/
def counted (p : Portion) (bytes : Bool) (text : String) : Except Misuse Portion := do
  let what := if bytes then "invalid number of bytes" else "invalid number of lines"
  return { p with bytes, count := ← amountOr what usualMultipliers text }

/-- So many units of a text, and what follows them. -/
def split (p : Portion) (count : Nat) (text : String) : String × String :=
  if p.bytes then
    let cs := text.toList
    (String.ofList (cs.take count), String.ofList (cs.drop count))
  else
    let pieces := piecesOf p.ending text
    (String.join (pieces.take count), String.join (pieces.drop count))

/-- How many units a text has. -/
def unitCount (p : Portion) (text : String) : Nat :=
  if p.bytes then text.length else (piecesOf p.ending text).length

/-- The wanted portion in front of a text. -/
def front (p : Portion) (text : String) : String :=
  (p.split (if p.others then p.unitCount text - p.count else p.count) text).1

/-- The wanted portion at the end of a text. -/
def back (p : Portion) (text : String) : String :=
  (p.split (if p.others then p.count - 1 else p.unitCount text - p.count) text).2

end Portion

/-! ## Headings -/

/-- What an operand is called in a heading. -/
def headingName (path : String) : String := if path = "-" then "standard input" else path

/-- Shows a part of each operand, with headings where there are several or if that is wanted:
    whether all of them could be shown, and whether any could be opened. -/
def showParts (self : String) (p : Portion) (operands : List String)
    (part : Nat → Run (Except FileFault String)) : Run (Bool × Bool) :=
  go (p.headings.getD (1 < operands.length)) "" operands
where
  /-- Goes on with the operands that are left.  From the second heading on, an empty line stands in
      front of it. -/
  go (headed : Bool) (gap : String) : List String → Run (Bool × Bool)
    | [] => return (true, false)
    | path :: rest => do
        match ← openOperand path with
        | .error fault =>
            let what := "cannot open " ++ quoted (headingName path) ++ " for reading"
            say self (what ++ ": " ++ fault.words)
            let (_, opened) ← go headed gap rest
            return (false, opened)
        | .ok number =>
            if headed then emit (gap ++ "==> " ++ headingName path ++ " <==\n")
            let well ← match ← part number with
              | .ok text =>
                  emit text
                  pure true
              | .error fault =>
                  say self ("error reading " ++ quoted (headingName path) ++ ": " ++ fault.words)
                  pure false
            let (allWell, _) ← go headed "\n" rest
            return (well && allWell, true)

/-! ## The front -/

/-- What an option of `head` adds to a portion. -/
def frontOption (p : Portion) (option : Given) : Except Misuse Portion :=
  match option.key with
  | "q" => .ok { p with headings := some false }
  | "v" => .ok { p with headings := some true }
  | "z" => .ok { p with ending := '\x00' }
  | "-presume-input-pipe" => .ok p
  | key =>
      if key.all Char.isDigit then .error (.hinted ("invalid trailing option -- " ++ key)) else
      let others := option.value.startsWith "-"
      let text := if others then String.ofList (option.value.toList.drop 1) else option.value
      { p with others }.counted (key = "c") text

/-- The portion that digits and letters behind a hyphen ask for. -/
def oldFront (word : List Char) : Except Misuse Portion := do
  let digits := word.takeWhile Char.isDigit
  let (p, multiplier) ← (word.drop digits.length).foldlM letter ({}, "")
  return ← p.counted p.bytes (String.ofList digits ++ multiplier)
where
  /-- What one letter adds. -/
  letter (state : Portion × String) (c : Char) : Except Misuse (Portion × String) :=
    let (p, multiplier) := state
    match c with
    | 'c' => .ok ({ p with bytes := true }, "")
    | 'b' | 'k' | 'm' => .ok ({ p with bytes := true }, c.toString)
    | 'l' => .ok ({ p with bytes := false }, multiplier)
    | 'q' => .ok ({ p with headings := some false }, multiplier)
    | 'v' => .ok ({ p with headings := some true }, multiplier)
    | 'z' => .ok ({ p with ending := '\x00' }, multiplier)
    | c => .error (.hinted ("invalid trailing option -- " ++ c.toString))

/-- Shows the front of files. -/
def front : Tool := fun self arguments => do
  let old : Except Misuse (Portion × List String) := match arguments with
    | word :: rest =>
        match word.toList with
        | '-' :: c :: cs =>
            if c.isDigit then return (← oldFront (c :: cs), rest) else return ({}, arguments)
        | _ => .ok ({}, arguments)
    | [] => .ok ({}, arguments)
  match old with
  | .error m => m.report self 1
  | .ok (initial, arguments) =>
      let choices :=
        "c,bytes= n,lines= ---presume-input-pipe q,quiet,silent v,verbose z,zero-terminated " ++
          "0 1 2 3 4 5 6 7 8 9"
      withSettings choices initial frontOption self arguments fun p operands => do
          let (well, _) ← showParts self p (orInput operands) fun number => do
            if p.count = 0 && !p.others then return .ok ""
            let appetite : Appetite := if p.others || p.ending ≠ '\n' then .flow
              else if p.bytes then .upTo p.count else .lines p.count
            match ← readOpened number appetite with
            | .error fault => return .error fault
            | .ok data =>
                let text := p.front (ByteText.ofBytes data)
                if p.others then giveBack number (data.size - text.length)
                else if !p.bytes then readAhead number data.size
                return .ok text
          finishWith well

/-! ## The end -/

/-- What an option of `tail` adds to a portion. -/
def backOption (p : Portion) (option : Given) : Except Misuse Portion := do
  match option.key with
  | "q" => return { p with headings := some false }
  | "v" => return { p with headings := some true }
  | "z" => return { p with ending := '\x00' }
  | "F" => return { p with waits := true, byName := true, retries := true }
  | "retry" => return { p with retries := true }
  | "-presume-input-pipe" | "-disable-inotify" => return p
  | "f" | "follow" =>
      let word ← if option.valued then choiceOf ["descriptor", "name"] option.value "--follow"
        else pure "descriptor"
      return { p with waits := true, byName := word = "name" }
  | "max-unchanged-stats" =>
      let _ ← amountOr "invalid maximum number of unchanged stats between opens" "" option.value
      return p
  | "pid" =>
      return { p with process := ← amountOr "invalid PID" "" option.value 0 (Nat.pow 2 31 - 1) }
  | "s" =>
      let digits := option.value.toList.filter fun c => c != '.'
      if !digits.isEmpty && digits.all Char.isDigit then return p
      else throw (.plain ("invalid number of seconds: " ++ cited option.value))
  | "c" | "n" =>
      let text := match option.value.toList with
        | '-' :: rest => String.ofList rest
        | _ => option.value
      { p with others := p.others || option.value.startsWith "+" }.counted (option.key = "c") text
  | digit => throw (.plain ("option used in invalid context -- " ++ digit))

/-- The portion that a word in the old form asks for, if it is one. -/
def oldBack? (word : String) : Option (Except Misuse Portion) :=
  match word.toList with
  | sign :: rest =>
      if (sign ≠ '+' && sign ≠ '-') || (sign = '-' && (rest = [] || rest = ['c'])) then none
      else
        let digits := rest.takeWhile Char.isDigit
        let (bytes, least, multiplier, letters) := match rest.drop digits.length with
          | 'b' :: letters => (true, 5120, "b", letters)
          | 'c' :: letters => (true, 10, "", letters)
          | 'l' :: letters => (false, 10, "", letters)
          | letters => (false, 10, "", letters)
        let p : Portion := { bytes, count := least, others := sign = '+', waits := letters = ['f'] }
        if letters ≠ [] && letters ≠ ['f'] then none
        else if digits.isEmpty then some (.ok p)
        else
          match amount "b" (String.ofList digits ++ multiplier) with
          | .ok count => some (.ok { p with count })
          | .error fault =>
              let fault := if fault = .tooLarge then AmountFault.outOfRange else fault
              some (.error (.plain ("invalid number: " ++ cited word ++ fault.ending)))
  | [] => none

/-- The portion in front of the options, where it is written in the old form, and the arguments that
    are left. -/
def oldBackOf (arguments : List String) : Except Misuse (Portion × List String) :=
  let alone : List String → Bool
    | [] => true
    | [word] => word = "-" || word = "--" || !word.startsWith "-"
    | [word, _] => word = "--"
    | _ => false
  match arguments with
  | word :: rest =>
      match if alone rest then oldBack? word else none with
      | some portion => portion.map fun p => (p, rest)
      | none => .ok ({}, arguments)
  | [] => .ok ({}, arguments)

/-- The options of `tail`. -/
def backChoices : String :=
  "c,bytes= --follow=? n,lines= --max-unchanged-stats= ---disable-inotify --pid= " ++
    "---presume-input-pipe q,quiet --retry q,silent s,sleep-interval= v,verbose " ++
    "z,zero-terminated f F 0 1 2 3 4 5 6 7 8 9"

/-- Whether an operand is a pipe that is read as the input, which nobody waits at. -/
def isPipedInput (path : String) : Run Bool := do
  if path ≠ "-" then return false
  let some number ← opening? 0 | return false
  return (← pipeOf? number).isSome

/-- Waits for what comes later, as long as a process is alive, if one is given. -/
def waitWhile (process : Option Nat) : Run Unit := do
  let some number := process | waitForEver
  let job := (← get).world.jobs.find? fun job => job.process = number && job.status.isNone
  match job.map Job.finish with
  | some (some moment) => waitUntil moment
  | some none => waitForEver
  | none => if (← shell).process = number then waitForEver

/-- Shows the end of files. -/
def back : Tool := fun self arguments => do
  match oldBackOf arguments with
  | .error m => m.report self 1
  | .ok (initial, arguments) =>
      withSettings backChoices initial backOption self arguments fun p operands => do
        if p.retries then
          if !p.waits then
            say self "warning: --retry ignored; --retry is useful only when following"
          else if !p.byName then
            say self "warning: --retry only effective for the initial open"
        if p.process.isSome && !p.waits then
          say self "warning: PID ignored; --pid=PID is useful only when following"
        let operands := orInput operands
        if p.waits && p.byName && operands.contains "-" then
          return ← fail self "cannot follow '-' by name"
        if p.count = 0 && !p.waits && !p.others then return ← finish 0
        let (well, opened) ← showParts self p operands fun number => do
          let data ← readOpened number (if p.others then .flow else .whole)
          return data.map fun data => p.back (ByteText.ofBytes data)
        if p.waits then
          let piped ← operands.mapM isPipedInput
          if piped.all id then finishWith well
          else if !opened && !p.retries then fail self "no files remaining"
          else
            waitWhile p.process
            finishWith well
        else finishWith well

end WasmBinary.Machine.Script.Tool
