/-
  How much storage files occupy.

  1. **Sizes** — a file occupies whole blocks; its apparent size is that of its contents.  A file
     with several names counts once.

  2. **Sums** — a directory occupies what is in it as well.  It is told behind all that is in it,
     as far as the depth is wanted.
-/
import WasmBinary.Machine.Script.Pattern
import WasmBinary.Machine.Script.Tool.Listing

namespace WasmBinary.Machine.Script.Tool

open Run

namespace Occupying

/-! ## Settings -/

/-- What is told about storage. -/
structure Settings where
  /-- Whether files are told that are no directories. -/
  files : Bool := false
  apparent : Bool := false
  /-- The base of magnitudes, if sizes are told with letters. -/
  human : Option Nat := none
  /-- The size of a unit, and the letters behind the number of units. -/
  unit : Nat := 1024
  suffix : String := ""
  depth : Option Nat := none
  summary : Bool := false
  total : Bool := false
  /-- Whether the sizes of directories inside a directory do not count for it. -/
  separate : Bool := false
  counted : Bool := false
  everyName : Bool := false
  /-- Whether it is looked for files that were met, even if they have a single name. -/
  several : Bool := false
  follows : Bool := false
  followsOperands : Bool := false
  threshold : Int := 0
  excluded : List String := []
  ending : Char := '\n'
  list : Option String := none

/-- The size of a unit that a text describes: how many bytes it has, and the letters behind numbers;
    or that the numbers are for people, by the base of their magnitudes. -/
def unitOf (text : String) : Option (Except Nat (Nat × String)) :=
  if text = "human-readable" then some (.error 1024)
  else if text = "si" then some (.error 1000)
  else
    match amount "EGkKMPTYZ0" text with
    | .ok n =>
        if n = 0 then none
        else
          let letters := String.ofList (text.toList.dropWhile Char.isDigit)
          let suffix := if letters = text then
              (if letters = "k" then "K" else letters) else ""
          some (.ok (n, suffix))
    | .error _ => none

/-- The next option. -/
def Settings.step (s : Settings) (option : Given) : Except Misuse Settings := do
  match option.key with
  | "a" => return { s with files := true }
  | "apparent-size" => return { s with apparent := true }
  | "b" => return { s with apparent := true, unit := 1, suffix := "", human := none }
  | "B" =>
      match unitOf option.value with
      | some (.error base) => return { s with human := some base }
      | some (.ok (unit, suffix)) => return { s with unit, suffix, human := none }
      | none =>
          throw (.plain ("invalid " ++ (if option.long then "--block-size" else "-B") ++
            " argument " ++ cited option.value))
  | "c" => return { s with total := true }
  | "D" | "H" => return { s with followsOperands := true, follows := false }
  | "d" =>
      match option.value.toNat? with
      | some n => return { s with depth := some n }
      | none =>
          throw { lines := ["invalid maximum depth " ++ quoted option.value], hint := true }
  | "h" => return { s with human := some 1024 }
  | "si" => return { s with human := some 1000 }
  | "inodes" => return { s with counted := true }
  | "k" => return { s with unit := 1024, suffix := "", human := none }
  | "m" => return { s with unit := 1048576, suffix := "", human := none }
  | "l" => return { s with everyName := true }
  | "L" => return { s with follows := true, followsOperands := true }
  | "P" => return { s with follows := false, followsOperands := false }
  | "S" => return { s with separate := true }
  | "s" => return { s with summary := true }
  | "t" =>
      let (negative, digits) := Numeral.signOf option.value.toList
      match amount "kKmMGTPEZYRQ0" (String.ofList digits) with
      | .ok n =>
          if n = 0 && negative then throw (.plain ("invalid --threshold argument '-0'"))
          return { s with threshold := if negative then -(n : Int) else n }
      | .error _ =>
          throw (.plain ("invalid " ++ (if option.long then "--threshold" else "-t") ++
            " argument " ++ cited option.value))
  | "exclude" => return { s with excluded := option.value :: s.excluded }
  | "files0-from" => return { s with list := some option.value }
  | "0" => return { s with ending := '\x00' }
  | _ => return s

/-- A size as it is told. -/
def Settings.text (s : Settings) (bytes : Nat) : String :=
  if s.counted then toString bytes
  else
    match s.human with
    | some base => humanSize base bytes
    | none => toString ((bytes + s.unit - 1) / s.unit) ++ s.suffix

/-- What a node counts for by itself. -/
def Settings.sizeOf (s : Settings) (node : Node) : Nat :=
  if s.counted then 1
  else if s.apparent then if node.isDirectory then 0 else node.size
  else blocksOf node * 1024

/-- Tells a size. -/
def Settings.tellSize (s : Settings) (bytes : Nat) (path : String) : Run Unit := do
  let wanted : Bool := if s.threshold < 0 then (bytes : Int) ≤ -s.threshold
    else s.threshold ≤ bytes
  if wanted then emit (s.text bytes ++ "\t" ++ path ++ s.ending.toString)

/-- Whether a path is left out. -/
def Settings.leavesOut (s : Settings) (path : String) : Bool :=
  let fits (pattern text : String) : Bool :=
    Pattern.fits (Pattern.ofText true pattern) text.toList
  let names := path.splitOn "/"
  s.excluded.any fun pattern =>
    (List.range names.length).any fun i => fits pattern ("/".intercalate (names.drop i))

/-! ## Counting -/

/-- What has been counted: the files that were met, and whether all could be read. -/
structure Met where
  nodes : List Nat := []
  fine : Bool := true

/-- Counts a path and what is in it: the size, that of the directories in it apart, and what has
    been met. -/
def count (self : String) (s : Settings) :
    Nat → (depth : Nat) → Met → String → Run (Nat × Met)
  | 0, _, met, _ => return (0, met)
  | n + 1, depth, met, path => do
      if s.leavesOut path then return (0, met)
      match ← lookAt path (s.follows || (s.followsOperands && depth = 0)) with
      | .error fault =>
          say self ("cannot access " ++ quoted path ++ ": " ++ fault.words)
          return (0, { met with fine := false })
      | .ok (i, node) =>
          let all ← files
          let once := node.isDirectory || s.follows || s.several || 1 < all.nameCount i
          if once && !s.everyName && met.nodes.contains i then return (0, met)
          let met := if once then { met with nodes := i :: met.nodes } else met
          let own := s.sizeOf node
          let shown := s.depth.all (depth ≤ ·)
          if !node.isDirectory then
            if depth = 0 || (s.files && shown) then s.tellSize own path
            return (own, met)
          else
            let readable := node.allows .read
            let mut met := met
            let mut inner := 0
            let mut folders := 0
            if readable then
              for name in node.names do
                let place := inside path name
                let (size, after) ← count self s n (depth + 1) met place
                met := after
                let folder := (← lookAt place s.follows).toOption.any fun entry =>
                  entry.2.isDirectory
                if folder then folders := folders + size else inner := inner + size
            else
              say self ("cannot read directory " ++ quoted path ++ ": " ++
                FileFault.permissionDenied.words)
              met := { met with fine := false }
            let whole := own + inner + folders
            if shown then s.tellSize (if s.separate then own + inner else whole) path
            return (whole, met)

/-- How deep directories may be. -/
def deepest : Nat := 4096

/-- Counts paths, one after the other: the sum, and whether all could be read. -/
def countAll (self : String) (s : Settings) : Met → List String → Run (Nat × Bool)
  | met, [] => return (0, met.fine)
  | met, path :: rest => do
      let slashed := path.endsWith "/" && path ≠ "/"
      let bare := if slashed then Files.withoutSlashes path ++ "/" else path
      let (size, met) ← count self s deepest 0 met bare
      let (more, fine) ← countAll self s met rest
      return (size + more, fine)

end Occupying

/-- Tells how much storage files occupy. -/
def occupied : Tool := fun self arguments =>
  withSettings ("a,all --apparent-size B,block-size= b,bytes l,count-links L,dereference " ++
      "D,dereference-args --exclude= X,exclude-from= --files0-from= h,human-readable " ++
      "--inodes --si d,max-depth= 0,null P,no-dereference x,one-file-system S,separate-dirs " ++
      "s,summarize c,total t,threshold= --time=? --time-style= H k m") {} Occupying.Settings.step
    self arguments fun s operands => do
      if s.summary && s.files then
        return ← misuse self "cannot both summarize and show all entries"
      if s.summary then
        if let some depth := s.depth then
          if depth = 0 then say self "warning: summarizing is the same as using --max-depth=0"
          else
            return ← misuse self ("warning: summarizing conflicts with --max-depth=" ++
              toString depth)
      let s := if s.summary then { s with depth := some 0 } else s
      let operands ← match s.list, operands with
        | some _, operand :: _ => do
            refuseOperand self operand
            throw .failed
        | some list, [] => do
            match ← readOperand list .whole with
            | .error .isADirectory => do
                fail self (shown list ++ ": read error: " ++ FileFault.isADirectory.words)
                throw .failed
            | .error fault => do
                fail self ("cannot open " ++ quoted list ++ " for reading: " ++ fault.words)
                throw .failed
            | .ok text => pure (recordsOf '\x00' text)
        | none, operands => pure (if operands.isEmpty then ["."] else operands)
      let named := operands.filter (· ≠ "")
      if named.length < operands.length then say self "invalid zero-length file name"
      let (sum, fine) ← Occupying.countAll self { s with several := 1 < named.length } {} named
      if s.total then s.tellSize sum "total"
      finishWith (fine && named.length = operands.length)

end WasmBinary.Machine.Script.Tool
