/-
  The tool that lays out pages.

  The operands are laid out one after the other, or side by side.  An operand with a plus sign in
  front tells which pages are wanted.
-/
import WasmBinary.Machine.Script.Tool.Dates
import WasmBinary.Machine.Script.Tool.Pages.Layout

namespace WasmBinary.Machine.Script.Tool

open Run

namespace Pages

/-- The columns of a sheet, each with where it starts. -/
def Plan.columnsFor (p : Plan) (sources : Nat) : Array Column :=
  let count := if p.merges then sources else p.count
  ((List.range count).map fun i =>
    let step := p.columnWidth + p.between.length
    let wider := if p.merges && p.numbered then p.numberWidth else 0
    let start :=
      if i = 0 then p.margin + p.between.length
      else if p.cuts then p.margin + wider + i * step
      else 0
    { source := if p.merges then i else 0
      numbered := p.numbered && (!p.merges || count = 1 || i = 0)
      start : Column }).toArray

/-- What becomes of texts that are laid out together, and what is wrong with the pages wanted. -/
def Settings.pages (s : Settings) (p : Plan) (texts : List (List Char)) (head : String × String) :
    String × Option String :=
  let fuel := sumOf (texts.map List.length) + texts.length + 8
  let sheet : Sheet :=
    { sources := texts.toArray
      columns := p.columnsFor texts.length
      ready := texts.length
      number := s.firstNumber.getD 1
      head }
  let p := { p with count := sheet.columns.size }
  let first := max 1 s.firstPage
  let (few, sheet) := (skipPages p fuel (first - 1) 1).run sheet
  match few with
  | some n =>
      (sheet.written, some ("starting page number " ++ toString first ++ " exceeds page count " ++
        toString n))
  | none => (((printPages p fuel fuel).run { sheet with page := first }).2.written, none)

/-- The operands, and the pages wanted. -/
def operandsOf : Settings → List String → Except Misuse (Settings × List String)
  | s, [] => .ok (s, [])
  | s, operand :: rest => do
      match operand.toList with
      | '+' :: pages =>
          if s.firstPage = 0 then
            match pagesOf (String.ofList pages) with
            | .ok (some (first, last)) =>
                operandsOf { s with firstPage := first, lastPage := last } rest
            | .ok none => keeping s operand rest
            | .error _ =>
                .error (.plain ("invalid + argument " ++ cited (String.ofList pages)))
          else keeping s operand rest
      | _ => keeping s operand rest
where
  /-- The operands with one that is a file. -/
  keeping (s : Settings) (operand : String) (rest : List String) :
      Except Misuse (Settings × List String) := do
    let (s, others) ← operandsOf s rest
    return (s, operand :: others)

end Pages

open Pages in
/-- Lays out pages. -/
def layPages : Tool := fun self arguments =>
  withSettings choices {} Settings.add self arguments fun s operands => do
    let columns : Except Misuse (Option Nat) :=
      if s.digits = "" then .ok s.columns
      else (countOr "invalid number of columns" s.digits 1).map some
    match columns, operandsOf s operands with
    | .error m, _ | _, .error m => m.report self 1
    | .ok columns, .ok (s, operands) =>
        let s := { s with columns }
        if s.merges && s.columns.isSome then
          fail self "cannot specify number of columns when printing in parallel"
        else if s.merges && s.across then
          fail self "cannot specify both printing across and printing in parallel"
        else
          let s := s.renewed
          let zone ← zoneOfUser
          let now := (← files).now
          let dated (moment : Int) : String :=
            (Calendar.Moment.ofNanoseconds moment zone).text s.dateFormat
          let read (path : String) : Run (Option String) := do
            match ← openOperand path with
            | .error fault =>
                unless s.quiet do say self (shown path ++ ": " ++ fault.words)
                return none
            | .ok number =>
                match ← readOpened number .flow with
                | .error fault =>
                    say self (shown path ++ ": " ++ fault.words)
                    finish 1
                    throw .failed
                | .ok bytes => return some (ByteText.ofBytes bytes)
          let lay (texts : List String) (files : Nat) (moment : Int) (name : String) :
              Run Unit := do
            match s.plan files with
            | none =>
                fail self "page width too narrow"
                throw .failed
            | some p =>
                let head := (dated moment, s.heading.getD name)
                let (text, complaint) := s.pages p (texts.map String.toList) head
                emit text
                if let some text := complaint then say self text
          if operands.isEmpty then
            match ← read "-" with
            | some text => lay [text] 0 now ""
            | none => return ← finish 1
            finish 0
          else if s.merges then
            let texts ← operands.mapM read
            let good := texts.filterMap id
            unless good.isEmpty do lay good operands.length now ""
            finishWith (texts.all Option.isSome)
          else
            forEach operands fun path => do
              let moment ← if path = "-" then pure now else
                match ← lookAt path with
                | .ok found => pure found.2.changed
                | .error _ => pure now
              match ← read path with
              | some text =>
                  lay [text] 1 moment (if path = "-" then "" else path)
                  return true
              | none => return false

end WasmBinary.Machine.Script.Tool
