/-
  The tool that gives files a length.

  A length is told as a number, or by the length that another file has.  A sign in front of the
  number relates it to the length that there is: the file grows or shrinks by so much, gets at least
  or at most that length, or the next multiple of it below or above.
-/
import WasmBinary.Machine.Script.Tool.Paths

namespace WasmBinary.Machine.Script.Tool

open Run

namespace Lengths

/-- How a number and the length that there is make a new length. -/
inductive Relation
  | exactly
  | added
  | atLeast
  | atMost
  | below
  | above
deriving DecidableEq, Repr

/-- Which length files get. -/
structure Settings where
  keepsMissing : Bool := false
  inBlocks : Bool := false
  model : Option String := none
  length : Option (Relation × Int) := none

/-- The number that a text is, with or without a sign. -/
def numberOf (text : String) : Except AmountFault Int := do
  match text.toList with
  | '-' :: digits => return -((← amount "EgGkKmMPtTYZ0" (String.ofList digits) : Nat) : Int)
  | _ =>
      let n ← amount "EgGkKmMPtTYZ0" text
      if n < Nat.pow 2 63 then return n else throw .tooLarge

/-- The relation and the number that a text means. -/
def lengthOf (text : String) : Except Misuse (Relation × Int) := do
  let cs := text.toList.dropWhile isWhite
  let relations : List (Char × Relation) :=
    [('<', .atMost), ('>', .atLeast), ('/', .below), ('%', .above)]
  let found : Option Relation := cs.head?.bind fun c => relations.lookup c
  let cs := if found.isSome then (cs.drop 1).dropWhile isWhite else cs
  let signed := cs.head?.any fun c => c = '+' || c = '-'
  if signed && found.isSome then throw (.hinted "multiple relative modifiers specified")
  let relation := found.getD (if signed then .added else .exactly)
  match numberOf (String.ofList cs) with
  | .error fault =>
      throw (.plain ("Invalid number: " ++ cited (String.ofList cs) ++ fault.ending))
  | .ok n =>
      if n = 0 && (relation = .below || relation = .above) then throw (.plain "division by zero")
      return (relation, n)

/-- Takes an option into account. -/
def Settings.add (s : Settings) (option : Given) : Except Misuse Settings := do
  match option.key with
  | "c" => return { s with keepsMissing := true }
  | "o" => return { s with inBlocks := true }
  | "r" => return { s with model := some option.value }
  | "s" => return { s with length := some (← lengthOf option.value) }
  | _ => return s

/-- The new length of what has a length, unless it cannot be told. -/
def Relation.apply (relation : Relation) (n old : Int) : Except String Nat :=
  let wanted : Int := match relation with
    | .exactly => n
    | .added => old + n
    | .atLeast => max old n
    | .atMost => min old n
    | .below => old - Int.tmod old n
    | .above => if Int.tmod old n = 0 then old else old - Int.tmod old n + n
  if wanted < (Nat.pow 2 63 : Nat) then .ok wanted.toNat
  else if relation = .above then .error "overflow rounding up size of file "
  else .error "overflow extending size of file "

/-- The greatest length that a file can have here. -/
def greatest : Nat := Nat.pow 2 31

end Lengths

open Lengths in
/-- Cuts or fills files to a length. -/
def truncate : Tool := fun self arguments =>
  withSettings "c,no-create o,io-blocks r,reference= s,size=" {} Settings.add self arguments
    fun s operands => do
      let relative := s.length.any fun found => found.1 ≠ .exactly
      if s.model.isNone && s.length.isNone then
        misuse self "you must specify either '--size' or '--reference'"
      else if s.model.isSome && s.length.isSome && !relative then
        misuse self "you must specify a relative '--size' with '--reference'"
      else if s.inBlocks && s.length.isNone then
        misuse self "'--io-blocks' was specified but '--size' was not"
      else if operands.isEmpty then misuse self "missing file operand"
      else
        let model ← match s.model with
          | none => pure none
          | some path =>
              match ← lookAt path with
              | .error fault =>
                  fail self ("cannot stat " ++ quoted path ++ ": " ++ fault.words)
                  throw .failed
              | .ok found =>
                  match found.2.content with
                  | .data bytes => pure (some bytes.size)
                  | .directory .. => pure (some (Nat.pow 2 63 - 1))
                  | _ => pure (some 0)
        let (relation, n) : Relation × Int := match s.length, model with
          | some found, _ => found
          | none, some size => (.exactly, size)
          | none, none => (.exactly, 0)
        let n := if s.inBlocks then 4096 * n else n
        forEach operands fun path => do
          if s.keepsMissing && (← lookAt path) matches .error .notFound then return true
          match ← openPath path .append with
          | .error fault =>
              say self ("cannot open " ++ quoted path ++ " for writing: " ++ fault.words)
              return false
          | .ok number =>
              let refuse (size : Nat) (words : String) : Run Bool := do
                say self ("failed to truncate " ++ quoted path ++ " at " ++ toString size ++
                  " bytes: " ++ words)
                return false
              match (← openedAt? number).map Opened.target with
              | some (.node i) =>
                  let content := ((← files).node? i).map Node.content
                  match content with
                  | some (.data bytes) =>
                      match relation.apply n (model.getD bytes.size) with
                      | .error words =>
                          say self (words ++ quoted path)
                          return false
                      | .ok size =>
                          if greatest < size then refuse size "File too large"
                          else
                            modifyFiles fun files => files.change i fun old =>
                              old.extract 0 size ++ zeroBytes (size - old.size)
                            return true
                  | _ => refuse n.toNat "Invalid argument"
              | _ => refuse n.toNat "Invalid argument"

end WasmBinary.Machine.Script.Tool
