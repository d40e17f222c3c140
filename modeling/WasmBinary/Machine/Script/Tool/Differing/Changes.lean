/-
  How one sequence becomes another.

  1. **Changes** — some elements of the first sequence are deleted, some of the second one are
     inserted, and all others are kept in their order.

  2. **Search** — few changes are found from both ends at once.  The farthest places that so many
     steps lead to are followed on all diagonals, until the two searches meet.

  3. **Shifts** — a run of changed elements may stand in several places with the same effect.  It
     joins other runs if it can, stands beside one of the other sequence, or else as far back as
     possible.
-/
import Std.Data.HashMap

namespace WasmBinary.Machine.Script.Tool.Differing

/-- A change: at places of the two sequences, so many elements are deleted and inserted. -/
structure Change where
  first : Nat
  second : Nat
  deleted : Nat
  inserted : Nat
deriving DecidableEq, Repr, Inhabited

/-! ## Search -/

/-- Parts of two sequences, from places on and up to others. -/
structure Region where
  x : Int
  right : Int
  y : Int
  lower : Int

/-- Which elements of two sequences are the same. -/
abbrev Same := Int → Int → Bool

/-- The farthest places on some diagonals. -/
structure Reach where
  places : Std.HashMap Int Int
  low : Int
  high : Int

namespace Reach

/-- The farthest place on a diagonal. -/
def furthest (r : Reach) (d : Int) : Int := (r.places.get? d).getD 0

/-- Puts the farthest place on a diagonal. -/
def put (r : Reach) (d x : Int) : Reach := { r with places := r.places.insert d x }

/-- Takes in the next diagonals on both sides, as far as there are some; nothing has been reached on
    those behind them. -/
def widen (r : Reach) (least greatest unreached : Int) : Reach :=
  let r :=
    if least < r.low then { r.put (r.low - 2) unreached with low := r.low - 1 }
    else { r with low := r.low + 1 }
  if r.high < greatest then { r.put (r.high + 2) unreached with high := r.high + 1 }
  else { r with high := r.high - 1 }

/-- Every other diagonal, from the highest one on. -/
def diagonals (r : Reach) : List Int :=
  if r.high < r.low then []
  else (List.range ((r.high - r.low).toNat / 2 + 1)).map fun (i : Nat) => r.high - 2 * (i : Int)

/-- Whether a diagonal is among them. -/
def covers (r : Reach) (d : Int) : Bool := r.low ≤ d && d ≤ r.high

end Reach

/-- How far elements are the same, from a place on. -/
def Region.forward (r : Region) (same : Same) : Nat → Int → Int → Int
  | 0, x, _ => x
  | n + 1, x, y =>
      if x < r.right && y < r.lower && same x y then r.forward same n (x + 1) (y + 1) else x

/-- How far elements are the same, from a place back. -/
def Region.backward (r : Region) (same : Same) : Nat → Int → Int → Int
  | 0, x, _ => x
  | n + 1, x, y =>
      if r.x < x && r.y < y && same (x - 1) (y - 1) then r.backward same n (x - 1) (y - 1) else x

/-- How many elements the first part has. -/
def Region.width (r : Region) : Nat := (r.right - r.x).toNat

/-- How many elements the second part has. -/
def Region.height (r : Region) : Nat := (r.lower - r.y).toNat

/-- Goes one step further from the beginning, and tells where that meets the search from the end. -/
def Region.advance (r : Region) (same : Same) (meets : Bool) (back : Reach) :
    List Int → Reach → Reach × Option (Int × Int)
  | [], front => (front, none)
  | d :: rest, front =>
      let above := front.furthest (d - 1)
      let below := front.furthest (d + 1)
      let start := if above < below then below else above + 1
      let x := r.forward same r.width start (start - d)
      let front := front.put d x
      if meets && back.covers d && back.furthest d ≤ x then (front, some (x, x - d))
      else r.advance same meets back rest front

/-- Goes one step further from the end, and tells where that meets the search from the beginning. -/
def Region.retreat (r : Region) (same : Same) (meets : Bool) (front : Reach) :
    List Int → Reach → Reach × Option (Int × Int)
  | [], back => (back, none)
  | d :: rest, back =>
      let above := back.furthest (d - 1)
      let below := back.furthest (d + 1)
      let start := if above < below then above else below - 1
      let x := r.backward same r.width start (start - d)
      let back := back.put d x
      if meets && front.covers d && x ≤ front.furthest d then (back, some (x, x - d))
      else r.retreat same meets front rest back

/-- Where the searches from both ends meet. -/
def Region.middle (r : Region) (same : Same) : Nat → (front back : Reach) → Int × Int
  | 0, _, _ => (r.right, r.lower)
  | n + 1, front, back =>
      let least := r.x - r.lower
      let greatest := r.right - r.y
      let odd := ((r.x - r.y) - (r.right - r.lower)) % 2 ≠ 0
      let front := front.widen least greatest (-1)
      match r.advance same odd back front.diagonals front with
      | (_, some place) => place
      | (front, none) =>
          let back := back.widen least greatest (r.right + r.lower + 2)
          match r.retreat same (!odd) front back.diagonals back with
          | (_, some place) => place
          | (back, none) => r.middle same n front back

/-- The places of whole numbers from one up to another. -/
def between (low high : Int) : List Int :=
  (List.range (high - low).toNat).map fun (i : Nat) => low + (i : Int)

/-- The elements that are deleted, and those that are inserted. -/
def Region.search (same : Same) : Nat → Region → List Int × List Int
  | 0, _ => ([], [])
  | n + 1, r =>
      let x := r.forward same r.width r.x r.y
      let r := { r with x, y := r.y + (x - r.x) }
      let right := r.backward same r.width r.right r.lower
      let r := { r with right, lower := r.lower - (r.right - right) }
      if r.x = r.right then ([], between r.y r.lower)
      else if r.y = r.lower then (between r.x r.right, [])
      else
        let start (d x : Int) : Reach :=
          { places := Std.HashMap.ofList [(d, x)], low := d, high := d }
        let (x, y) := r.middle same (r.width + r.height + 1) (start (r.x - r.y) r.x)
          (start (r.right - r.lower) r.right)
        let (deleted, inserted) := search same n { r with right := x, lower := y }
        let (deletedThen, insertedThen) := search same n { r with x, y }
        (deleted ++ deletedThen, inserted ++ insertedThen)

/-! ## Marks -/

/-- Marks for the elements of a sequence; there are none outside. -/
abbrev Marks := Array Bool

/-- The mark at a place. -/
def Marks.has (marks : Marks) (i : Int) : Bool := 0 ≤ i && marks.getD i.toNat false

/-- Sets the mark at a place. -/
def Marks.put (marks : Marks) (i : Int) (b : Bool) : Marks := marks.setIfInBounds i.toNat b

/-- The first place from a place on that has no mark. -/
def Marks.after (marks : Marks) : Nat → Int → Int
  | 0, i => i
  | n + 1, i => if marks.has i then marks.after n (i + 1) else i

/-- The first place from a place back that has no mark. -/
def Marks.before (marks : Marks) : Nat → Int → Int
  | 0, i => i
  | n + 1, i => if marks.has i then marks.before n (i - 1) else i

/-- The marks of two sequences that few changes lead to.  Elements that the other sequence does not
    have take no part in the search, unless there are to be as few changes as possible. -/
def marksOf (minimal : Bool) (a b : Array Nat) : Marks × Marks :=
  let kept (own other : Array Nat) : Array Nat :=
    let found : Std.HashMap Nat Unit := other.foldl (fun m k => m.insert k ()) {}
    ((List.range own.size).filter fun i => minimal || found.contains (own.getD i 0)).toArray
  let (first, second) := (kept a b, kept b a)
  let same (x y : Int) : Bool :=
    a.getD (first.getD x.toNat 0) 0 = b.getD (second.getD y.toNat 0) 0
  let whole : Region := { x := 0, right := first.size, y := 0, lower := second.size }
  let (deleted, inserted) := whole.search same (first.size + second.size + 1)
  let marks (size : Nat) (kept : Array Nat) (changed : List Int) : Marks :=
    let none : Marks := Array.replicate kept.size false
    let others := changed.foldl (fun (m : Marks) i => m.put i true) none
    let staying := (List.range kept.size).filter fun i => !others.getD i false
    let unmarked := staying.map fun i => kept.getD i 0
    unmarked.foldl (fun m i => m.setIfInBounds i false) (Array.replicate size true)
  (marks a.size first deleted, marks b.size second inserted)

/-! ## Shifts -/

/-- A run of marks while it is shifted: where it starts and ends, the place in the other sequence
    that its end is beside, and where it last ended beside a run there. -/
structure Stretch where
  marks : Marks
  start : Int
  stop : Int
  beside : Int
  anchor : Int

namespace Stretch

/-- Moves a run back by one place. -/
def back (other : Marks) (r : Stretch) : Stretch :=
  let marks := (r.marks.put (r.start - 1) true).put (r.stop - 1) false
  { r with
    marks, start := r.start - 1, stop := r.stop - 1
    beside := other.before other.size (r.beside - 1) }

/-- Moves a run back as far as it goes, and joins the runs on the way. -/
def toFront (kinds : Array Nat) (other : Marks) : Nat → Stretch → Stretch
  | 0, r => r
  | n + 1, r =>
      if 0 < r.start &&
          kinds.getD (r.start - 1).toNat 0 = kinds.getD (r.stop - 1).toNat 0 then
        let r := r.back other
        let start := r.marks.before r.marks.size (r.start - 1) + 1
        toFront kinds other n { r with start }
      else r

/-- Moves a run on as far as it goes, and joins the runs on the way. -/
def toEnd (kinds : Array Nat) (other : Marks) : Nat → Stretch → Stretch
  | 0, r => r
  | n + 1, r =>
      if r.stop < kinds.size && kinds.getD r.start.toNat 0 = kinds.getD r.stop.toNat 0 then
        let marks := (r.marks.put r.start false).put r.stop true
        let stop := marks.after marks.size (r.stop + 1)
        let beside := other.after other.size (r.beside + 1)
        let anchor := if other.has (r.beside + 1) then stop else r.anchor
        toEnd kinds other n { marks, start := r.start + 1, stop, beside, anchor }
      else r

/-- Moves a run back and on, until it does not grow any more. -/
def grow (kinds : Array Nat) (other : Marks) : Nat → Stretch → Stretch
  | 0, r => r
  | n + 1, r =>
      let length := r.stop - r.start
      let r := r.toFront kinds other (kinds.size + 1)
      let anchor := if other.has (r.beside - 1) then r.stop else (kinds.size : Int)
      let r := ({ r with anchor }).toEnd kinds other (kinds.size + 1)
      if length = r.stop - r.start then r else grow kinds other n r

/-- Moves a run back to where it stands beside one of the other sequence, if it does anywhere. -/
def settle (other : Marks) : Nat → Stretch → Stretch
  | 0, r => r
  | n + 1, r => if r.anchor < r.stop then (r.back other).settle other n else r

end Stretch

/-- Goes to the next mark, and to the place beside it. -/
def nextMark (marks other : Marks) : Nat → Int → Int → Int × Int
  | 0, i, j => (i, j)
  | n + 1, i, j =>
      if i < marks.size && !marks.has i then
        nextMark marks other n (i + 1) (other.after other.size j + 1)
      else (i, j)

/-- Shifts the runs of a sequence, from places on. -/
def shiftFrom (kinds : Array Nat) (other : Marks) : Nat → Marks → Int → Int → Marks
  | 0, marks, _, _ => marks
  | n + 1, marks, i, j =>
      let size := kinds.size + 1
      let (start, beside) := nextMark marks other size i j
      if kinds.size ≤ start then marks
      else
        let r : Stretch :=
          { marks, start, stop := marks.after size start
            beside := other.after other.size beside, anchor := 0 }
        let r := (r.grow kinds other size).settle other size
        shiftFrom kinds other n r.marks r.stop r.beside

/-- Shifts the runs of a sequence. -/
def shifted (kinds : Array Nat) (marks other : Marks) : Marks :=
  shiftFrom kinds other (kinds.size + 1) marks 0 0

/-! ## Changes -/

/-- The changes that marks mean, from places on. -/
def changesFrom (a b : Marks) : Nat → Int → Int → List Change
  | 0, _, _ => []
  | n + 1, i, j =>
      if a.size ≤ i && b.size ≤ j then []
      else
        let (x, y) := (a.after a.size i, b.after b.size j)
        let rest := changesFrom a b n (x + 1) (y + 1)
        if x = i && y = j then rest
        else
          { first := i.toNat, second := j.toNat, deleted := (x - i).toNat
            inserted := (y - j).toNat } :: rest

/-- How many elements in front are the same. -/
def commonCount {α : Type} [BEq α] : List α → List α → Nat
  | a :: as, b :: bs => if a == b then commonCount as bs + 1 else 0
  | _, _ => 0

/-- The changes that lead from one sequence of kinds to another. -/
def changesBetween (minimal : Bool) (a b : Array Nat) : List Change :=
  let (deleted, inserted) := marksOf minimal a b
  let deleted := shifted a deleted inserted
  let inserted := shifted b inserted deleted
  changesFrom deleted inserted (a.size + b.size + 1) 0 0

end WasmBinary.Machine.Script.Tool.Differing
