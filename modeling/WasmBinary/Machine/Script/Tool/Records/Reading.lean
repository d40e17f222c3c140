/-
  Reading programs that work on records.

  1. **Printing** — a greater sign, or a bar, behind what is printed tells where that goes, unless
     it is in parentheses.

  2. **Ends** — a statement ends with a semicolon, with its line, or in front of a closing brace.

  3. **Misfits** — behind a token that does not fit, reading goes on where the statement ends, or
     with the next block if no statement is read.

  4. **Calls** — a function that is called has to be there, and to take so many arguments.
-/
import WasmBinary.Machine.Script.Tool.Records.Expressions

namespace WasmBinary.Machine.Script.Tool.Records

namespace Reader

/-! ## Statements -/

/-- Takes the end of a statement. -/
def endStatement : Reader Unit := do
  match ← peek with
  | .mark ";" | .lineEnd =>
      skip
      skipLines
  | .mark "\x7d" => return
  | _ => misplaced

/-- Reads something within a loop. -/
def loopBody {α : Type} (body : Reader α) : Reader α := do
  let before := (← get).inLoop
  modify fun s => { s with inLoop := true }
  let found ← body
  modify fun s => { s with inLoop := before }
  return found

/-- Whether nothing follows that could be an expression. -/
def atEnd : Reader Bool := return match ← peek with
  | .mark ";" | .lineEnd | .mark "\x7d" => true
  | _ => false

/-- Where printed output goes. -/
def destination (fuel : Nat) : Reader (Option (Destination × Expr)) := do
  let found : Option Destination := match ← peek with
    | .mark ">" => some .replace
    | .mark ">>" => some .append
    | .mark "|" => some .command
    | _ => none
  match found with
  | none => return none
  | some d =>
      skip
      return some (d, ← expression fuel true)

/-- What is printed, behind its keyword. -/
def printed (fuel : Nat) (formatted : Bool) : Reader Statement := do
  let line ← lineHere
  let empty := (← atMark "(") && match ← second with
    | .mark s => s = ")"
    | _ => false
  if empty then
    skip
    skip
  let items ← if empty || (← endsPrinted) then pure [] else expressions fuel true
  let items := match items with
    | [.list all] => all
    | all => all
  let goal ← destination fuel
  if formatted && items.isEmpty then note (some line) "no arguments in call to printf"
  return .print formatted items goal

/-- Goes on behind a token that does not fit, where the statement ends. -/
def resume : Nat → Reader Unit
  | 0 => throw .forGood
  | n + 1 => do
      match ← peek with
      | .fileEnd => throw .forGood
      | .lineEnd | .mark ";" =>
          skip
          modify fun s => { s with parens := 0, wary := 0 }
      | .mark "\x7d" => modify fun s => { s with parens := 0, wary := 0 }
      | _ =>
          skip
          resume n

/-- A statement, or what is left of it behind a token that does not fit. -/
def recovering (body : Reader Statement) : Reader Statement := fun s =>
  match body s with
  | .error .misfit s =>
      match resume s.rest.length.succ s with
      | .ok _ s => .ok .nothing s
      | .error halt s => .error halt s
  | result => result

mutual

/-- Statements up to a closing brace. -/
def statements : Nat → Reader (List Statement)
  | 0 => misplaced
  | n + 1 => do
      skipLines
      if ← takeMark "\x7d" then return []
      let first ← recovering (statement n)
      return first :: (← statements n)

/-- A block behind its opening brace. -/
def block : Nat → Reader Statement
  | 0 => misplaced
  | n + 1 => return .block (← statements n)

/-- A statement that belongs to another one. -/
def inner : Nat → Reader Statement
  | 0 => misplaced
  | n + 1 => do
      skipLines
      if ← takeMark ";" then return .nothing
      else if ← atMark "\x7d" then return .nothing
      else recovering (statement n)

/-- A statement. -/
def statement : Nat → Reader Statement
  | 0 => misplaced
  | n + 1 => do
      match ← peek with
      | .mark "\x7b" =>
          skip
          let body ← block n
          let _ ← takeMark ";"
          return body
      | .mark ";" =>
          skip
          return .nothing
      | .keyword "if" =>
          skip
          expect "("
          let condition ← expression n false
          expect ")"
          let a ← inner n
          let before ← get
          skipLines
          let _ ← takeMark ";"
          skipLines
          if ← takeWord "else" then return .choice condition a (← inner n)
          else
            set before
            return .choice condition a .nothing
      | .keyword "while" =>
          skip
          expect "("
          let condition ← expression n false
          expect ")"
          if ← takeMark ";" then return .while condition .nothing
          return .while condition (← loopBody (inner n))
      | .keyword "do" =>
          skip
          let body ← loopBody (inner n)
          return .repeatUntil body (← loopEnd n)
      | .keyword "for" =>
          skip
          expect "("
          forLoop n
      | .keyword "break" =>
          if !(← get).inLoop then noteHere "break statement outside of loop"
          skip
          endStatement
          return .leaveLoop
      | .keyword "continue" =>
          if !(← get).inLoop then noteHere "continue statement outside of loop"
          skip
          endStatement
          return .nextRound
      | .keyword "next" =>
          if !(← get).inRule then noteHere "improper use of next"
          skip
          endStatement
          return .nextRecord
      | .keyword "nextfile" =>
          if !(← get).inRule then noteHere "improper use of nextfile"
          skip
          endStatement
          return .nextFile
      | .keyword "exit" =>
          skip
          let status ← if ← atEnd then pure none else do pure (some (← expression n false))
          endStatement
          return .stop status
      | .keyword "return" =>
          if !(← get).inFunction then noteHere "return outside function body"
          skip
          let value ← if ← atEnd then pure none else do pure (some (← expression n false))
          endStatement
          return .giveBack value
      | .keyword "delete" =>
          skip
          let name ← expectArray
          let keys ← if ← takeMark "[" then do
              let keys ← expressions n false
              expect "]"
              pure (some keys)
            else pure none
          endStatement
          return .forget name keys
      | .keyword "print" =>
          skip
          let s ← printed n false
          endStatement
          return s
      | .keyword "printf" =>
          skip
          let s ← printed n true
          endStatement
          return s
      | _ =>
          let e ← expression n false
          endStatement
          return .evaluate e

/-- The condition behind a loop.  It is looked for again where a token does not fit. -/
def loopEnd : Nat → Reader Expr
  | 0 => misplaced
  | n + 1 => fun s =>
      let found : Reader Expr := do
        skipLines
        let _ ← takeMark ";"
        skipLines
        if ← atMark "\x7d" then
          noticeMisfit
          skip
          throw .misfit
        if !(← takeWord "while") then misplaced
        expect "("
        let condition ← expression n false
        expect ")"
        endStatement
        return condition
      match found s with
      | .error .misfit s =>
          match resume s.rest.length.succ s with
          | .ok _ s => loopEnd n s
          | .error halt s => .error halt s
      | result => result

/-- A loop that counts, or one for each key of an array, behind its opening parenthesis. -/
def forLoop : Nat → Reader Statement
  | 0 => misplaced
  | n + 1 => do
      let shape := ((← get).rest.take 3).map Placed.token
      match shape with
      | [.name v, .keyword "in", .name a] =>
          noteKind .variable v
          skip
          skip
          noteKind .array a
          skip
          expect ")"
          return .forEach v a (← loopBody (inner n))
      | _ =>
          let first ← if ← atMark ";" then pure .nothing
            else do pure (Statement.evaluate (← expression n false))
          expect ";"
          skipLines
          let condition ← if ← atMark ";" then pure none else do pure (some (← expression n false))
          expect ";"
          skipLines
          let next ← if ← atMark ")" then pure .nothing
            else do pure (Statement.evaluate (← expression n false))
          expect ")"
          if ← takeMark ";" then return .count first condition next .nothing
          return .count first condition next (← loopBody (inner n))

end

/-! ## Programs -/

/-- The names between parentheses. -/
def parameters : Nat → List String → Reader (List String)
  | 0, _ => misplaced
  | n + 1, seen => do
      if ← takeMark ")" then return seen.reverse
      let name ← expectName
      if seen.contains name then
        note (some (← get).line) (name ++ " is duplicated in argument list")
      if ← takeMark "," then
        skipLines
        parameters n (name :: seen)
      else
        expect ")"
        return (name :: seen).reverse

/-- A block, which has to be in front. -/
def braced (fuel : Nat) : Reader Statement := do
  expect "\x7b"
  block fuel

/-- A function behind its keyword. -/
def functionPart (fuel : Nat) (p : Program) : Reader Program := do
  let name ← match ← peek with
    | .name s | .callee s => do
        skip
        pure s
    | _ => misplaced
  if p.functions.any fun f => f.name = name then noteHere ("redefinition of " ++ name)
  else noteKind .function name
  expect "("
  let names ← parameters fuel []
  skipLines
  modify fun s =>
    { s with
      inFunction := true
      inRule := true
      locals := names.map fun name => (name, none)
      functions := (name, names.length) :: s.functions }
  let body ← braced fuel
  modify fun s => { s with inFunction := false, inRule := false, locals := [] }
  return { p with functions := p.functions ++ [⟨name, names, body⟩] }

/-- A rule. -/
def rule (fuel : Nat) (p : Program) : Reader Program := do
  let pattern ← if ← atMark "\x7b" then pure Pattern.any else do
    let first ← expression fuel false
    if ← takeMark "," then
      skipLines
      let number := (← get).ranges
      modify fun s => { s with ranges := number + 1 }
      pure (Pattern.range number first (← expression fuel false))
    else pure (Pattern.holds first)
  modify fun s => { s with inRule := true }
  let body ← if ← atMark "\x7b" then braced fuel else do
    match ← peek with
    | .lineEnd | .mark ";" | .fileEnd =>
        if !(← atMark ";") then skip
        pure (Statement.print false [] none)
    | _ => misplaced
  modify fun s => { s with inRule := false }
  return { p with rules := p.rules ++ [(pattern, body)] }

/-- A part of a program, which is added to what there is of it. -/
def part (fuel : Nat) (p : Program) : Reader Program := do
  match ← peek with
  | .keyword "BEGIN" =>
      skip
      return { p with beginnings := p.beginnings ++ [← braced fuel] }
  | .keyword "END" =>
      skip
      return { p with endings := p.endings ++ [← braced fuel] }
  | .keyword "function" =>
      skip
      functionPart fuel p
  | _ => rule fuel p

/-- Goes on behind a token that does not fit, with the next block. -/
def resumeOutside (fuel : Nat) : Nat → Reader Unit
  | 0 => throw .forGood
  | n + 1 => do
      match ← peek with
      | .fileEnd => throw .forGood
      | .mark "\x7b" =>
          modify fun s =>
            { s with wary := 3, inLoop := false, inFunction := false, inRule := true, locals := [] }
          let _ ← braced fuel
          modify fun s => { s with inRule := false }
      | _ =>
          skip
          resumeOutside fuel n

/-- A part of a program, or what is left of it behind a token that does not fit. -/
def partOrRest (fuel : Nat) (p : Program) : Reader Program := fun s =>
  match part fuel p s with
  | .error .misfit s =>
      match resumeOutside fuel s.rest.length.succ s with
      | .ok _ s => .ok p s
      | .error halt s => .error halt s
  | result => result

/-- The parts of a program. -/
def parts : Nat → Program → Reader Program
  | 0, p => return p
  | n + 1, p => do
      skipLines
      let fuel := 20 * (← get).rest.length + 100
      match ← peek with
      | .fileEnd => return p
      | _ =>
          let p ← partOrRest fuel p
          modify fun s =>
            match s.rest with
            | ⟨.mark ";", _⟩ :: rest => { s with rest }
            | _ => s
          parts n p

end Reader

/-- What is wrong with a call, once all functions are known. -/
def Source.callFault? (s : Source) (call : Call) : Option Fault :=
  match s.functions.lookup call.name with
  | none => some ⟨some s.line, "function " ++ call.name ++ " never defined"⟩
  | some parameters =>
      if parameters < call.arguments then
        some ⟨some call.line, "too many arguments in call to " ++ call.name⟩
      else none

/-- The program that a text is, or what is told about it. -/
def Program.ofText (text : String) : Except (List Fault) Program :=
  let tokens := tokensOf text
  match (Reader.parts (tokens.length + 1) {}).run { rest := tokens } with
  | .ok p s =>
      let last := (tokens.getLast?.map Placed.line).getD 1
      let faults := if s.told.isEmpty then
          (s.calls.filterMap { s with line := last }.callFault?).take Reader.mostFaults
        else s.told.reverse
      if faults.isEmpty then .ok p else .error faults
  | .error _ s => .error s.told.reverse

end WasmBinary.Machine.Script.Tool.Records
