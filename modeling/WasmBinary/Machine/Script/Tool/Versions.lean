/-
  The order of names with versions in them.

  Names are compared part by part, where a part is a run of digits or a run without any.  Digits
  are compared as numbers.  Of other characters letters come first, and a tilde comes before
  everything, even before the end.  Endings such as `.tar.gz` are compared only where all else is
  the same, and names with a dot in front come before the others.
-/

namespace WasmBinary.Machine.Script.Tool

/-- Where a character that is no digit stands in the order of versions; the end is none. -/
def versionRank : Option Char → Int
  | none => -1
  | some c =>
      if c.isDigit then 0
      else if c.isAlpha then c.toNat
      else if c = '~' then -2
      else c.toNat + 256

/-- Skips what both have in common where one of them is no digit: the order, or what is left. -/
def compareLetters : List Char → List Char → Except Ordering (List Char × List Char)
  | a, b =>
      let plain (cs : List Char) : Bool := cs.head?.any fun c => !c.isDigit
      if !plain a && !plain b then .ok (a, b)
      else
        let x := versionRank a.head?
        let y := versionRank b.head?
        if x < y then .error .lt
        else if y < x then .error .gt
        else
          match a, b with
          | _ :: a, _ :: b => compareLetters a b
          | a, b => .ok (a, b)
termination_by a => a.length

/-- Compares versions part by part.  The number bounds how many parts there are. -/
def compareParts : Nat → List Char → List Char → Ordering
  | 0, _, _ => .eq
  | n + 1, a, b =>
      if a.isEmpty && b.isEmpty then .eq
      else
        match compareLetters a b with
        | .error order => order
        | .ok (a, b) =>
            let a := a.dropWhile (· = '0')
            let b := b.dropWhile (· = '0')
            let x := a.takeWhile Char.isDigit
            let y := b.takeWhile Char.isDigit
            match compare x.length y.length with
            | .eq =>
                match compare (Nat.ofDigitChars 10 x 0) (Nat.ofDigitChars 10 y 0) with
                | .eq => compareParts n (a.drop x.length) (b.drop y.length)
                | order => order
            | order => order

/-- A name without its endings, where an ending is a dot with letters and digits behind it. -/
def withoutEndings (name : List Char) : List Char :=
  name.take (go (name.length + 1) 0 0)
where
  /-- Where an ending behind a place ends. -/
  ending (i : Nat) : Nat :=
    match name.drop i with
    | '.' :: c :: rest =>
        if c.isAlpha || c = '~' then
          i + 2 + (rest.takeWhile fun c => c.isAlphanum || c = '~').length
        else i
    | _ => i
  /-- Where the endings behind a place end. -/
  endings : Nat → Nat → Nat
    | 0, i => i
    | n + 1, i => if ending i = i then i else endings n (ending i)
  /-- How long a name is without its endings. -/
  go : Nat → Nat → Nat → Nat
    | 0, _, length => length
    | n + 1, i, length =>
        if name.length ≤ i then length else go n (endings (name.length + 1) (i + 1)) (i + 1)

/-- Compares names with versions. -/
def compareVersions (a b : String) : Ordering :=
  match a.toList, b.toList with
  | [], [] => .eq
  | [], _ => .lt
  | _, [] => .gt
  | x, y =>
      let rank (cs : List Char) : Nat :=
        if cs = ['.'] then 0 else if cs = ['.', '.'] then 1
        else if cs.head? = some '.' then 2 else 3
      match compare (rank x) (rank y) with
      | .eq =>
          if rank x < 2 then .eq
          else
            let n := x.length + y.length + 1
            match compareParts n (withoutEndings x) (withoutEndings y) with
            | .eq => compareParts n x y
            | order => order
      | order => order

end WasmBinary.Machine.Script.Tool
