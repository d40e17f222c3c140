/-
  Running programs that work on records.

  1. **Expressions** have values, and some of them change variables, the record or streams.

  2. **Statements** go on, or leave a loop, a round of it, or a function.

  3. **Rules** are tried on every record.  When there are no more records, the rules for the end
     have their turn.
-/
import WasmBinary.Machine.Script.Tool.Records.Calls
import WasmBinary.Machine.Script.Tool.Records.Program
import WasmBinary.Machine.Script.Tool.Records.Streams

namespace WasmBinary.Machine.Script.Tool.Records

open Run

/-- How a statement ends. -/
inductive Flow
  | onward
  | leaveLoop
  | nextRound
  | giveBack (v : Value)

/-- The order of two values. -/
def orderOf (a b : Value) : Work (Option Ordering) := do
  match a.number?, b.number? with
  | some x, some y =>
      match a, b with
      | .nothing, .text _ | .text _, .nothing => return some (compare (← textOf a) (← textOf b))
      | _, _ => return Value.orderOf x y
  | _, _ => return some (compare (← textOf a) (← textOf b))

/-- How deep calls may be nested. -/
def mostDepth : Nat := 20000

/-- The key that values are together. -/
def keyOfAll (values : List Value) : Work Key := do
  match values with
  | [v] => keyOf v
  | values =>
      let between ← textOf (← globalValue "SUBSEP")
      return .text (between.intercalate (← values.mapM textOf))

/-- The index of a field that a value is. -/
def fieldIndex (v : Value) : Work Nat := do
  match Value.whole? v.toNumber with
  | some (.ofNat n) => return n
  | some n => runError ("negative field index $" ++ toString n)
  | none => return 0

mutual

/-- The value of an expression. -/
def evaluate (start : Starter) : Nat → Expr → Work Value
  | 0, _ => (waitForEver : Run Value)
  | n + 1, e => do
      countStep
      let value (e : Expr) : Work Value := evaluate start n e
      let number (e : Expr) : Work Float := do return (← value e).toNumber
      let text (e : Expr) : Work String := do textOf (← value e)
      match e with
      | .number x => return .number x
      | .text s => return .text s
      | .pattern source => return .ofBool (← fits source (← textOf (← recordHere)))
      | .named name => variableValue name
      | .field index => fieldAt (← fieldIndex (← value index))
      | .element name keys =>
          let key ← keyOfAll (← keys.mapM value)
          let table ← tableNumber name
          changeTable table fun t => t.use key
          return (← tableAt table).get key
      | .assign target e =>
          let v ← value e
          assignTo start n target v
          return v
      | .update c target e =>
          let y ← number e
          let x ← number target
          let v := Value.number (Value.calculate c x y)
          assignTo start n target v
          return v
      | .step target up after =>
          let x ← number target
          let y := if up then x + 1.0 else x - 1.0
          assignTo start n target (.number y)
          return .number (if after then y else x)
      | .choice condition a b => if (← value condition).isTrue then value a else value b
      | .either a b =>
          if (← value a).isTrue then return .ofBool true
          else return .ofBool (← value b).isTrue
      | .both a b =>
          if (← value a).isTrue then return .ofBool (← value b).isTrue
          else return .ofBool false
      | .opposite a => return .ofBool (!(← value a).isTrue)
      | .contains name keys =>
          let key ← keyOfAll (← keys.mapM value)
          let table ← tableNumber name
          changeTable table fun t => t.look key
          return .ofBool ((← tableAt table).has key)
      | .fits a wanted b =>
          let s ← text a
          let found ← match b with
            | .pattern source => fits source s
            | b => do fits (← text b) s
          return .ofBool (found = wanted)
      | .compare c a b =>
          let x ← value a
          let y ← value b
          return .ofBool (Value.holds c (← orderOf x y))
      | .join a b =>
          let x ← text a
          let y ← text b
          return .text (x ++ y)
      | .calculate c a b =>
          let x ← number a
          let y ← number b
          return .number (Value.calculate c x y)
      | .negative a => return .number (-(← number a))
      | .positive a => return .number (← number a)
      | .list [a] => value a
      | .list items => do
          let mut last := Value.nothing
          for item in items do last ← value item
          return last
      | .call name arguments => call start n name arguments
      | .builtin name arguments => builtin start n name arguments
      | .line source place target => line start n source place target

/-- Gives a place a value. -/
def assignTo (start : Starter) : Nat → Expr → Value → Work Unit
  | 0, _, _ => return
  | n + 1, target, v =>
      match target with
      | .named name => putVariable name v
      | .field index => do putField (← fieldIndex (← evaluate start n index)) v
      | .element name keys => do
          let key ← keyOfAll (← keys.mapM (evaluate start n))
          let table ← tableNumber name
          changeTable table fun t => t.put key v
      | _ => return

/-- Reads a line: one, zero at the end, and a negative number if that is impossible. -/
def line (start : Starter) : Nat → LineSource → List Expr → List Expr → Work Value
  | 0, _, _, _ => return .nothing
  | n + 1, source, place, target => do
      let accept (s : String) (counts : Bool) : Work Value := do
        if counts then countRecord
        match target with
        | [] => putRecord (.seen s)
        | t :: _ => assignTo start n t (.seen s)
        return .number 1.0
      match source with
      | .records =>
          match ← nextOfFiles with
          | some s => accept s true
          | none => return .number 0.0
      | source =>
          let name ← match place with
            | [e] => do textOf (← evaluate start n e)
            | _ => pure ""
          match ← nextLineOf start (source = .command) name with
          | .ok (some s) => accept s false
          | .ok none => return .number 0.0
          | .error _ => return .number (-1.0)

/-- Calls a function of the program. -/
def call (start : Starter) : Nat → String → List Expr → Work Value
  | 0, _, _ => return .nothing
  | n + 1, name, arguments => do
      let m ← get
      let some f := m.functions.get? name | return .nothing
      let arrays := (m.arrays.get? name).getD []
      let slots ← (f.parameters.zip arrays).zipIdx.mapM fun ((parameter, isArray), i) => do
        let slot ← match arguments[i]?, isArray with
          | some (.named given), true | some (.list [.named given]), true =>
              pure (Slot.table (← tableNumber given))
          | some e, _ => do pure (Slot.value (← evaluate start n e))
          | none, true => do
              let number := (← get).tables.size
              modify fun m => { m with tables := m.tables.push {} }
              pure (Slot.table number)
          | none, false => pure (Slot.value .nothing)
        return (parameter, slot)
      if mostDepth < (← get).frames.length then
        runError "function call nesting too deep for evaluation stack"
      modify fun m => { m with frames := Std.HashMap.ofList slots :: m.frames }
      let flow ← execute start n f.body
      modify fun m => { m with frames := m.frames.drop 1 }
      match flow with
      | .giveBack v => return v
      | _ => return .nothing

/-- Calls a function that is known. -/
def builtin (start : Starter) : Nat → String → List Expr → Work Value
  | 0, _, _ => return .nothing
  | n + 1, name, arguments => do
      let value (i : Nat) : Work Value := match arguments[i]? with
        | some e => evaluate start n e
        | none => return .nothing
      let text (i : Nat) : Work String := do textOf (← value i)
      let number (i : Nat) : Work Float := do return (← value i).toNumber
      let source (i : Nat) : Work String := match arguments[i]? with
        | some (.pattern s) => return s
        | _ => text i
      match name with
      | "length" =>
          match arguments with
          | [] => return .ofNat (← textOf (← recordHere)).length
          | [.named given] =>
              match ← slotOf? given with
              | some (.table table) => return .ofNat (← tableAt table).values.size
              | _ => return .ofNat (← text 0).length
          | _ => return .ofNat (← text 0).length
      | "substr" =>
          let s ← text 0
          let i ← number 1
          let count ← if arguments.length = 3 then do pure (some (← number 2)) else pure none
          return .text (part s i count)
      | "index" =>
          let s ← text 0
          return .ofNat (placeOf (← text 1).toList 1 s.toList)
      | "split" =>
          let s ← text 0
          let separator : Option Expr := arguments[2]?
          let pieces ← match separator with
            | some (.pattern source) =>
                if s = "" then pure []
                else do
                  let r ← regexOf source
                  let l : Regex.Line := { text := s.toList.toArray }
                  pure (if source = "" then s.toList.map Char.toString
                    else piecesBetween (Regex.Searcher.of l r) (s.length + 2) 0 0)
            | some _ => do fieldsOf (← text 2) false s
            | none => do fieldsOf (← separatorNow) false s
          let place : Option Expr := arguments[1]?
          if let some (.named given) := place then
            let table ← tableNumber given
            changeTable table fun _ => Table.ofValues (pieces.map Value.seen)
          return .ofNat pieces.length
      | "sub" | "gsub" =>
          let pattern ← source 0
          let template ← text 1
          let target := arguments.getD 2 (.field (.number 0.0))
          let s ← textOf (← evaluate start n target)
          let (new, count) ← substitute pattern template s (name = "gsub")
          if count ≠ 0 then assignTo start n target (.text new)
          return .ofNat count
      | "match" =>
          let s ← text 0
          let r ← regexOf (← source 1)
          match Regex.search { text := s.toList.toArray } r 0 with
          | some m =>
              putGlobal "RSTART" (.ofNat (m.first + 1))
              putGlobal "RLENGTH" (.ofNat (m.last - m.first))
              return .ofNat (m.first + 1)
          | none =>
              putGlobal "RSTART" (.number 0.0)
              putGlobal "RLENGTH" (.number (-1.0))
              return .number 0.0
      | "toupper" => return .text ((← text 0).map Char.toUpper)
      | "tolower" => return .text ((← text 0).map Char.toLower)
      | "sprintf" =>
          let format ← text 0
          let values ← (arguments.drop 1).mapM (evaluate start n)
          match ← formattedBy "sprintf" format values with
          | (_, some fault) => runError fault
          | (pieces, none) => return .text (String.join pieces)
      | "atan2" =>
          let y ← number 0
          return .number (Float.atan2 y (← number 1))
      | "rand" => return .number (← nextRandom)
      | "srand" =>
          let before := (← get).seed
          let seed ← if arguments.isEmpty then do pure (Float.ofInt (← secondNow)) else number 0
          modify fun m => { m with seed, random := seed.toBits ||| 1 }
          return .number before
      | "system" =>
          let command ← text 0
          flushAll
          return .ofNat (seenStatus (← (statusOf start "sh" command : Run Nat)))
      | "close" => return .number (← closeNamed start (← text 0))
      | "fflush" =>
          if arguments.isEmpty then flushMain
          else
            let name ← text 0
            if ((← get).outputs.lookup name).isNone then return .number (-1.0)
            flushOutput name
          return .number 0.0
      | "systime" => return .number (Float.ofInt (← secondNow))
      | "strftime" =>
          let format ← if arguments.isEmpty then pure "%c" else text 0
          let second ← if arguments.length < 2 then secondNow
            else do pure ((Value.whole? (← number 1)).getD 0)
          return .text (momentText format second)
      | "mktime" =>
          let parts := ((← text 0).splitOn " ").filterMap String.toInt?
          match parts with
          | year :: month :: day :: hour :: minute :: second :: _ =>
              let c : Calendar.Civil :=
                { year, month, day, hour, minute, second, nanosecond := 0 }
              return .number (Float.ofInt c.seconds)
          | _ => return .number (-1.0)
      | name => return .number ((numeric? name (← number 0)).getD 0.0)

/-- Executes a statement. -/
def execute (start : Starter) : Nat → Statement → Work Flow
  | 0, _ => (waitForEver : Run Flow)
  | n + 1, s => do
      let value (e : Expr) : Work Value := evaluate start n e
      match s with
      | .nothing => return .onward
      | .evaluate e =>
          let _ ← value e
          return .onward
      | .print isFormatted items goal =>
          let values ← match items with
            | [] => do pure [← recordHere]
            | items => items.mapM value
          let place ← match goal with
            | some (d, e) => do pure (some (d, ← textOf (← value e)))
            | none => pure none
          let write (s : String) : Work Unit := match place with
            | some (d, name) => writeTo d name s
            | none => writeMain s
          if isFormatted then
            let format ← textOf (values.headD .nothing)
            let (pieces, fault) ← formattedBy "printf" format (values.drop 1)
            write (String.join pieces)
            if let some fault := fault then runError fault
          else
            let texts ← values.mapM (textBy "OFMT")
            let between ← textOf (← globalValue "OFS")
            write (between.intercalate texts ++ (← textOf (← globalValue "ORS")))
          return .onward
      | .block all => executeAll start n all
      | .choice condition a b =>
          if (← value condition).isTrue then execute start n a else execute start n b
      | .while condition body => loop start n (some condition) .nothing body
      | .repeatUntil body condition =>
          match ← execute start n body with
          | .leaveLoop => return .onward
          | .giveBack v => return .giveBack v
          | _ => loop start n (some condition) .nothing body
      | .count first condition next body =>
          let _ ← execute start n first
          loop start n condition next body
      | .forEach name array body =>
          let table ← tableNumber array
          let (keys, ordered) := (← tableAt table).keys
          changeTable table fun _ => ordered
          forKeys start n name body keys
      | .leaveLoop => return .leaveLoop
      | .nextRound => return .nextRound
      | .nextRecord => throw .nextRecord
      | .nextFile => throw .nextFile
      | .stop status =>
          if let some e := status then
            let code := (Value.whole? (← value e).toNumber).getD 0
            modify fun m => { m with status := (code % 256).toNat }
          throw .stop
      | .giveBack none => return .giveBack .nothing
      | .giveBack (some e) => return .giveBack (← value e)
      | .forget array none =>
          let table ← tableNumber array
          changeTable table fun _ => {}
          return .onward
      | .forget array (some keys) =>
          let key ← keyOfAll (← keys.mapM value)
          let table ← tableNumber array
          changeTable table fun t => t.erase key
          return .onward

/-- Executes statements one after the other. -/
def executeAll (start : Starter) : Nat → List Statement → Work Flow
  | 0, _ => (waitForEver : Run Flow)
  | _, [] => return .onward
  | n + 1, s :: rest => do
      match ← execute start n s with
      | .onward => executeAll start n rest
      | flow => return flow

/-- Goes round a loop. -/
def loop (start : Starter) : Nat → Option Expr → Statement → Statement → Work Flow
  | 0, _, _, _ => (waitForEver : Run Flow)
  | n + 1, condition, next, body => do
      countStep
      let more ← match condition with
        | some e => do pure (← evaluate start n e).isTrue
        | none => pure true
      if !more then return .onward
      match ← execute start n body with
      | .leaveLoop => return .onward
      | .giveBack v => return .giveBack v
      | _ =>
          let _ ← execute start n next
          loop start n condition next body

/-- Goes round a loop for each of some keys. -/
def forKeys (start : Starter) : Nat → String → Statement → List String → Work Flow
  | 0, _, _, _ => (waitForEver : Run Flow)
  | _, _, _, [] => return .onward
  | n + 1, name, body, key :: rest => do
      putVariable name (.text key)
      match ← execute start n body with
      | .leaveLoop => return .onward
      | .giveBack v => return .giveBack v
      | _ => forKeys start n name body rest

end

/-! ## Rules -/

/-- How far a program may go. -/
def fuel : Nat := Nat.pow 2 40

/-- Whether the record fits a pattern. -/
def Pattern.fits (start : Starter) : Pattern → Work Bool
  | .any => return true
  | .holds e => return (← evaluate start fuel e).isTrue
  | .range number first last => do
      let inside := (← get).ranges.contains number
      let here ← if inside then pure true else do pure (← evaluate start fuel first).isTrue
      if !here then return false
      else
        let ends := (← evaluate start fuel last).isTrue
        modify fun m =>
          let others := m.ranges.filter (· ≠ number)
          { m with ranges := if ends then others else number :: others }
        return true

/-- Tries all rules on the record. -/
def tryRules (start : Starter) (p : Program) : Work Unit := do
  for (pattern, body) in p.rules do
    if ← pattern.fits start then
      let _ ← execute start fuel body

/-- What a piece of work is left by, if it is left early. -/
def leapOf (work : Work Unit) : Work (Option Leap) := fun m s =>
  match work m s with
  | (.ok (.ok (), m), s) => (.ok (.ok none, m), s)
  | (.ok (.error leap, m), s) => (.ok (.ok (some leap), { m with frames := [] }), s)
  | (.error stop, s) => (.error stop, s)

/-- Goes through all records. -/
def records (start : Starter) (p : Program) : Nat → Work Unit
  | 0 => return
  | n + 1 => do
      countStep
      match ← nextOfFiles with
      | none => return
      | some s =>
          countRecord
          putRecord (.seen s)
          match ← leapOf (tryRules start p) with
          | some .nextFile =>
              modify fun m => { m with main := none }
              records start p n
          | some .stop => throw .stop
          | some .failed => throw .failed
          | _ => records start p n

/-- Does work that may stop early: whether it did. -/
def stops (work : Work Unit) : Work Bool := do
  match ← leapOf work with
  | some .failed => throw .failed
  | leap => return leap.isSome

/-- Runs a program.  Records are read only if something is to be done with them, or behind them;
    if there is no end of them, the rules for the end have no turn. -/
def Program.run (start : Starter) (p : Program) : Work Unit := do
  let all (bodies : List Statement) : Work Unit :=
    bodies.forM fun s => do let _ ← execute start fuel s
  let mut stopped ← stops (all p.beginnings)
  if !stopped && !(p.rules.isEmpty && p.endings.isEmpty) then
    stopped ← stops (records start p fuel)
  if stopped then (satisfied : Run Unit)
  if (← (get : Run State)).world.flood = .none then
    let _ ← stops (all p.endings)

end WasmBinary.Machine.Script.Tool.Records
