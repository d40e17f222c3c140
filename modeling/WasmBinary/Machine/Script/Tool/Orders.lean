/-
  Tools that put things in an order.

  1. **Topological order** — pairs tell what comes before what.  What nothing comes before is next;
     all of these wait in a queue.  A loop is told, and broken at one of its pairs.

  2. **Any order** — lines, words or numbers may be mixed up in any way.  That includes the order
     in which they are.
-/
import Std.Data.HashMap
import WasmBinary.Machine.Script.Tool.Basic

namespace WasmBinary.Machine.Script.Tool

open Run

/-! ## Topological order -/

namespace Topology

/-- Something that is before others. -/
structure Item where
  name : String
  /-- How many pairs still tell that something is before it. -/
  count : Nat := 0
  /-- What it is before, the latest one first. -/
  followers : List Nat := []
  printed : Bool := false
deriving Inhabited

/-- The items, in the order of their names. -/
abbrev Items := Array Item

/-- The items of pairs of names. -/
def itemsOf (names : List String) : Items :=
  let sorted := (names.eraseDups.mergeSort (· ≤ ·)).toArray
  let places : Std.HashMap String Nat := Std.HashMap.ofList sorted.toList.zipIdx
  let place (name : String) : Nat := (places.get? name).getD 0
  let rec relate : Items → List String → Items
    | items, a :: b :: rest =>
        if a = b then relate items rest
        else
          let items := items.modify (place b) fun i => { i with count := i.count + 1 }
          let items := items.modify (place a) fun i =>
            { i with followers := place b :: i.followers }
          relate items rest
    | items, _ => items
  relate (sorted.map fun name => { name }) names

/-- Takes items off a queue: their names, and the items that are left. -/
def drain : Nat → Items → List Nat → List String → Items × List String
  | 0, items, _, done => (items, done)
  | _, items, [], done => (items, done)
  | n + 1, items, i :: queue, done =>
      let item := items.getD i default
      let items := items.modify i fun item => { item with printed := true }
      let step (state : Items × List Nat) (j : Nat) : Items × List Nat :=
        let items := state.1.modify j fun item => { item with count := item.count - 1 }
        if (items.getD j default).count = 0 then (items, state.2 ++ [j]) else (items, state.2)
      let (items, freed) := item.followers.foldl step (items, [])
      drain n items (queue ++ freed) (item.name :: done)

/-- The items that nothing is before. -/
def ready (items : Items) : List Nat :=
  (List.range items.size).filter fun i =>
    let item := items.getD i default
    item.count = 0 && !item.printed

/-- Where the search for a loop is: what it has found so far, the latest item first, and which
    items lead to others. -/
structure Search where
  front : Option Nat := none
  links : Std.HashMap Nat Nat := {}

/-- The items from one on that lead to others, up to an item. -/
def chain (links : Std.HashMap Nat Nat) (last : Nat) : Nat → Nat → List Nat
  | 0, i => [i]
  | n + 1, i =>
      if i = last then [i]
      else
        match links.get? i with
        | some next => i :: chain links last n next
        | none => [i]

/-- Looks at items for a loop that ends with one of them: the loop, or how far the search is. -/
def lookAt (items : Items) : Search → List Nat → Except (List Nat) Search
  | s, [] => .ok s
  | s, k :: rest =>
      let item := items.getD k default
      if item.count = 0 then lookAt items s rest
      else
        match s.front with
        | none => lookAt items { s with front := some k } rest
        | some front =>
            if item.followers.contains front then
              if s.links.contains k then .error (chain s.links k (items.size + 1) front)
              else lookAt items { front := some k, links := s.links.insert k front } rest
            else lookAt items s rest

/-- The loop that is found first.  The number bounds how often all items are looked at. -/
def loop (items : Items) : Nat → Search → List Nat
  | 0, _ => []
  | n + 1, s =>
      match lookAt items s (List.range items.size) with
      | .error found => found
      | .ok s => loop items n s

/-- Takes the pair away that closes a loop. -/
def broken (items : Items) (found : List Nat) : Items :=
  match found.head?, found.getLast? with
  | some front, some last =>
      let items := items.modify front fun item => { item with count := item.count - 1 }
      items.modify last fun item => { item with followers := item.followers.erase front }
  | _, _ => items

/-- Tells all items in their order: whether there was no loop. -/
def tellAll (self file : String) : Nat → Items → Bool → Run Bool
  | 0, _, fine => return fine
  | n + 1, items, fine => do
      let (items, names) := drain (items.size + 1) items (ready items) []
      emit (String.join (names.reverse.map (·.push '\n')))
      if items.all Item.printed then return fine
      else
        say self (file ++ ": input contains a loop:")
        let found := loop items (items.size + 2) {}
        for i in found do say self (items.getD i default).name
        if found.isEmpty then return false else tellAll self file n (broken items found) false

end Topology

/-- Sorts topologically. -/
def sortTopologically : Tool := fun self arguments =>
  withUsage "" self arguments fun u => do
    match u.operands with
    | _ :: extra :: _ => misuse self ("extra operand " ++ quoted extra)
    | operands =>
        let path := operands.headD "-"
        match ← readOperand path .whole with
        | .error .isADirectory =>
            fail self (shown path ++ ": read error: " ++ FileFault.isADirectory.words)
        | .error fault => fail self (shown path ++ ": " ++ fault.words)
        | .ok text =>
            let names := (text.splitToList fun c => c = ' ' || c = '\t' || c = '\n').filter (· ≠ "")
            if names.length % 2 = 1 then
              fail self (shown path ++ ": input contains an odd number of tokens")
            else
              let fine ← Topology.tellAll self (shown path) (names.length + 1)
                (Topology.itemsOf names) true
              finishWith fine

/-! ## Any order -/

namespace Mixing

/-- What is mixed up. -/
structure Settings where
  echoes : Bool := false
  range : Option (Nat × Nat) := none
  most : Option Nat := none
  target : Option String := none
  repeats : Bool := false
  ending : Char := '\n'

/-- Takes an option into account. -/
def Settings.add (s : Settings) (option : Given) : Except Misuse Settings := do
  match option.key with
  | "e" => return { s with echoes := true }
  | "i" =>
      if s.range.isSome then throw (.plain "multiple -i options specified")
      match (option.value.splitOn "-").map String.toNat? with
      | [some low, some high] =>
          if high + 1 < low then throw (invalid option.value)
          else return { s with range := some (low, high) }
      | _ => throw (invalid option.value)
  | "n" =>
      match option.value.toNat? with
      | some n => return { s with most := some (min n (s.most.getD n)) }
      | none => throw (.plain ("invalid line count: " ++ quoted option.value))
  | "o" =>
      if s.target.any (· ≠ option.value) then throw (.plain "multiple output files specified")
      return { s with target := some option.value }
  | "r" => return { s with repeats := true }
  | "z" => return { s with ending := '\x00' }
  | _ => return s
where
  /-- What is told about a range that is none. -/
  invalid (text : String) : Misuse := .plain ("invalid input range: " ++ quoted text)

end Mixing

/-- Mixes lines, words or numbers up. -/
def mix : Tool := fun self arguments =>
  withSettings ("e,echo i,input-range= n,head-count= o,output= --random-source= r,repeat " ++
      "z,zero-terminated") {} Mixing.Settings.add self arguments fun s operands => do
    if s.echoes && s.range.isSome then return ← misuse self "cannot combine -e and -i options"
    let extra := if s.echoes then none
      else if s.range.isSome then operands.head? else operands[1]?
    if let some word := extra then return ← misuse self ("extra operand " ++ quoted word)
    let items : Option (List String) ← match s.range with
      | some (low, high) =>
          let count := high + 1 - low
          let count := min count (s.most.getD count)
          pure (some ((List.range count).map fun i => toString (low + i)))
      | none =>
          if s.echoes then pure (some operands)
          else do
            let path := operands.headD "-"
            match ← readOperand path .whole with
            | .ok text => pure (some (recordsOf s.ending text))
            | .error .isADirectory =>
                say self ("read error: " ++ FileFault.isADirectory.words)
                pure none
            | .error fault =>
                say self (shown path ++ ": " ++ fault.words)
                pure none
    let some items := items | finish 1
    if s.repeats && items.isEmpty && s.most ≠ some 0 then
      return ← fail self "no lines to repeat"
    let text (items : List String) : String := String.join (items.map (·.push s.ending))
    let chosen ← match s.repeats, s.most with
      | true, some n => pure ((List.range n).map fun i => items.getD (i % items.length) "")
      | true, none => do
          let _ ← (waitForEver : Run Unit)
          pure []
      | false, some n => pure (items.take n)
      | false, none => pure items
    match s.target with
    | none =>
        emit (text chosen)
        finish 0
    | some path =>
        match ← openPath path .replace with
        | .ok number =>
            let _ ← writeOpened number (ByteText.toBytes (text chosen))
            finish 0
        | .error fault => fail self (shown path ++ ": " ++ fault.words)

end WasmBinary.Machine.Script.Tool
