/-
  Matching regular expressions.

  1. **Places** — a text of `n` characters has `n + 1` places.  A set of places is a number, whose
     bits say which places are in it, so that all places of a set move on at once.

  2. **Grids** — for a text, an expression becomes a grid: every character and every condition in it
     becomes the set of the places where it is met.

  3. **Ends and starts** — from a set of places, an expression leads to the places where its matches
     end; backwards, it leads to those where they start.

  4. **Choice** — of all matches the leftmost counts, and of those the longest, or the first in the
     order of the expression.  What the groups have matched is told by the first way to match in
     that order which ends where the match ends.
-/
import WasmBinary.Machine.Script.Regex.Basic

namespace WasmBinary.Machine.Script.Regex

/-- A text to be matched. -/
structure Line where
  text : Array Char
  /-- Whether letters are the same in both cases. -/
  caseless : Bool := false
  /-- Whether lines in the text count as lines. -/
  lines : Bool := false
  /-- What ends a line in the text. -/
  lineEnd : Char := '\n'

namespace Line

/-- Whether the character at a place belongs to a word. -/
def isWord (line : Line) (i : Nat) : Bool :=
  line.text[i]?.any fun c => c.isAlphanum || c = '_'

/-- Whether a word has its border at a place: where one starts, and where one ends. -/
def borders (line : Line) (i : Nat) : Bool × Bool :=
  let before := 0 < i && line.isWord (i - 1)
  (!before && line.isWord i, before && !line.isWord i)

/-- Whether a test holds of a character, or of the same letter in the other case. -/
def either (caseless : Bool) (test : Char → Bool) (c : Char) : Bool :=
  test c || caseless && (test c.toLower || test c.toUpper)

end Line

/-! ## Places -/

/-- The number whose lowest bits are given. -/
def bitsOf (bits : List Bool) : Nat := bits.foldr (fun bit n => 2 * n + bit.toNat) 0

/-- The places in front of the characters that a test holds of. -/
def placesOf (line : Line) (test : Char → Bool) : Nat := bitsOf (line.text.toList.map test)

/-- The places that a test holds of. -/
def placesWhere (line : Line) (test : Nat → Bool) : Nat :=
  bitsOf ((List.range (line.text.size + 1)).map test)

/-- All places of a text. -/
def allPlaces (line : Line) : Nat := Nat.pow 2 (line.text.size + 1) - 1

/-- The lowest place of a set, from a place on; the first number bounds how many places there
    are. -/
def lowest : Nat → Nat → Nat → Option Nat
  | 0, _, _ => none
  | n + 1, places, i => if places.testBit i then some i else lowest n places (i + 1)

/-- The highest place of a set. -/
def highest? (places : Nat) : Option Nat := if places = 0 then none else some places.log2

/-! ## Grids -/

/-- An expression for one text. -/
inductive Grid
  /-- Moves on by one place, from some places. -/
  | step (places : Nat)
  /-- Stays, at some places. -/
  | check (places : Nat)
  | seq (a b : Grid)
  | alt (a b : Grid)
  | repeated (g : Grid) (least : Nat) (most : Option Nat) (greedy : Bool)
  | group (n : Nat) (g : Grid)
  /-- The first way to match, which leads from each place to at most one. -/
  | once (ways : List (Nat × Nat))

/-- Repeats something on a set of places until nothing is added. -/
def closure (step : Nat → Nat) : Nat → Nat → Nat → Nat
  | 0, all, _ => all
  | n + 1, all, fresh =>
      let found := step fresh
      let added := found ^^^ (found &&& all)
      if added = 0 then all else closure step n (all ||| added) added

/-- The same step several times, as long as there are places left. -/
def stepTimes (step : Nat → Nat) : Nat → Nat → Nat
  | 0, places => places
  | n + 1, places => if places = 0 then 0 else stepTimes step n (step places)

/-- The places from which characters at some places lead to a set.  Each round doubles how many
    characters are looked at; the first number bounds how many rounds there are. -/
def spread : Nat → (width : Nat) → (places all : Nat) → Nat
  | 0, _, _, all => all
  | n + 1, width, places, all =>
      if places = 0 then all
      else
        spread n (2 * width) (places &&& (places >>> width)) (all ||| (places &&& (all >>> width)))

/-- A step at most so many times. -/
def stepAtMost (step : Nat → Nat) : Nat → Nat → Nat → Nat
  | 0, all, _ => all
  | n + 1, all, places =>
      let found := step places
      if found ||| all = all then all else stepAtMost step n (all ||| found) found

/-- The places that a repeated step leads to; the first number is how many places there are. -/
def severalTimes (step : Nat → Nat) (size least : Nat) (most : Option Nat) (places : Nat) : Nat :=
  let all := stepTimes step least places
  match most with
  | none => closure step size all all
  | some most => stepAtMost step (most - least) all all

namespace Grid

/-- The places where matches end that start in a set. -/
def ends (size : Nat) : Grid → Nat → Nat
  | step m, s => (s &&& m) <<< 1
  | check m, s => s &&& m
  | seq a b, s => b.ends size (a.ends size s)
  | alt a b, s => a.ends size s ||| b.ends size s
  | repeated (step m) 0 none _, s => (((s &&& m) + m) ^^^ m) ||| s
  | repeated g least most _, s => severalTimes (g.ends size) size least most s
  | group _ g, s => g.ends size s
  | once ways, s => ways.foldl (fun found way =>
      if s.testBit way.1 then found ||| 1 <<< way.2 else found) 0

/-- The places where matches start that end in a set. -/
def starts (size : Nat) : Grid → Nat → Nat
  | step m, s => (s >>> 1) &&& m
  | check m, s => s &&& m
  | seq a b, s => a.starts size (b.starts size s)
  | alt a b, s => a.starts size s ||| b.starts size s
  | repeated (step m) 0 none _, s => spread (size.log2 + 1) 1 m s
  | repeated g least most _, s => severalTimes (g.starts size) size least most s
  | group _ g, s => g.starts size s
  | once ways, s => ways.foldl (fun found way =>
      if s.testBit way.2 then found ||| 1 <<< way.1 else found) 0

end Grid

/-- What groups have matched: their numbers, with the places where that starts and ends. -/
abbrev Groups := List (Nat × Nat × Nat)

/-- How far a match has come, and what its groups have matched, the latest first. -/
structure Trace where
  place : Nat
  groups : Groups := []

namespace Grid

/-- Goes on as long as that can lead to one of the wanted places.  The way of one step is given; the
    first number bounds how many steps there are. -/
def iterate (step : Nat → Trace → Trace) (ends starts : Nat → Nat) (size : Nat) (greedy : Bool)
    (wanted : Nat) : Nat → (least : Nat) → (most : Option Nat) → Trace → Trace
  | 0, _, _, t => t
  | n + 1, least, most, t =>
      let less := most.map (· - 1)
      let here := 1 <<< t.place
      let onward :=
        if most = some 0 then 0
        else
          let behind := severalTimes starts size (least - 1) less wanted
          let found := ends here &&& behind
          if least = 0 then found ^^^ (found &&& here) else found
      let stays := least = 0 && wanted.testBit t.place
      if onward = 0 || (stays && !greedy) then t
      else iterate step ends starts size greedy wanted n (least - 1) less (step onward t)

/-- The first way from a place to one of the wanted places, which has to exist. -/
def way (size : Nat) : Grid → (wanted : Nat) → Trace → Trace
  | step _, _, t => { t with place := t.place + 1 }
  | check _, _, t => t
  | seq a b, wanted, t =>
      b.way size wanted (a.way size (b.starts size wanted) t)
  | alt a b, wanted, t =>
      if a.ends size (1 <<< t.place) &&& wanted != 0 then a.way size wanted t
      else b.way size wanted t
  | repeated g least most greedy, wanted, t =>
      iterate (g.way size) (g.ends size) (g.starts size) size greedy wanted (size + least + 1)
        least most t
  | group n g, wanted, t =>
      let after := g.way size wanted t
      { after with groups := (n, t.place, after.place) :: after.groups }
  | once ways, _, t => { t with place := (ways.lookup t.place).getD t.place }

end Grid

/-- The number of the group that remembers where the counted part of a match starts. -/
def keptGroup : Nat := 1000000

/-- The grid of an expression for a text.  Groups that are asked for are not known here; they match
    nothing. -/
def grid (line : Line) (caseless : Bool) : Regex → Grid
  | empty => .check (allPlaces line)
  | char c => .step (placesOf line (Line.either caseless fun d => d = c))
  | any lineEnds => .step (placesOf line fun c => lineEnds || c != '\n')
  | set negated members =>
      let inSet := Line.either caseless fun c => members.any (Pattern.Member.has c)
      .step (placesOf line fun c => inSet c != negated)
  | front lines => .check (placesWhere line fun i =>
      i = 0 || lines && line.lines && line.text[i - 1]? = some line.lineEnd)
  | back lines => .check (placesWhere line fun i =>
      i = line.text.size || lines && line.lines && line.text[i]? = some line.lineEnd)
  | border starts ends => .check (placesWhere line fun i =>
      let (s, e) := line.borders i
      starts && s || ends && e)
  | noBorder => .check (placesWhere line fun i => line.borders i = (false, false))
  | seq a b => .seq (a.grid line caseless) (b.grid line caseless)
  | alt a b => .alt (a.grid line caseless) (b.grid line caseless)
  | repeated r least most greedy => .repeated (r.grid line caseless) least most greedy
  | group n r => .group n (r.grid line caseless)
  | same _ => .check 0
  | look ahead wanted r =>
      let g := r.grid line caseless
      let size := line.text.size + 1
      let all := allPlaces line
      let places := if ahead then g.starts size all else g.ends size all
      .check (if wanted then places else all ^^^ (places &&& all))
  | once r =>
      let g := r.grid line caseless
      let size := line.text.size + 1
      let all := allPlaces line
      let starts := g.starts size all
      .once ((List.range size).filterMap fun i =>
        if starts.testBit i then some (i, (g.way size all { place := i }).place) else none)
  | .caseless r => r.grid line true
  | keep => .group keptGroup (.check (allPlaces line))

/-! ## Groups that are asked for -/

/-- The ways to match again and again, in their order.  The last number bounds how many there are
    that begin with each other. -/
def repeatedWays (step : Trace → List Trace) (greedy : Bool) :
    Nat → (least : Nat) → (most : Option Nat) → Trace → List Trace
  | 0, least, _, t => if least = 0 then [t] else []
  | n + 1, least, most, t =>
      let longer := if most = some 0 then [] else
        (step t).flatMap fun next =>
          if next.place = t.place && least = 0 then []
          else repeatedWays step greedy n (least - 1) (most.map (· - 1)) next
      if least != 0 then longer else if greedy then longer ++ [t] else t :: longer

/-- The ways to match an expression from a place on, in their order. -/
def ways (line : Line) (caseless : Bool) : Regex → Trace → List Trace
  | seq a b, t => (ways line caseless a t).flatMap (ways line caseless b)
  | alt a b, t => ways line caseless a t ++ ways line caseless b t
  | repeated r least most greedy, t =>
      repeatedWays (ways line caseless r) greedy (line.text.size + least + 1) least most t
  | group n r, t =>
      (ways line caseless r t).map fun u =>
        { u with groups := (n, t.place, u.place) :: u.groups }
  | same n, t =>
      match t.groups.lookup n with
      | none => []
      | some (i, j) =>
          let fold (c : Char) : Char := if caseless then c.toLower else c
          let wanted := (line.text.extract i j).map fold
          let found := (line.text.extract t.place (t.place + (j - i))).map fold
          if wanted = found then [{ t with place := t.place + (j - i) }] else []
  | look true wanted r, t =>
      match ways line caseless r t, wanted with
      | u :: _, true => [{ u with place := t.place }]
      | [], false => [t]
      | _, _ => []
  | look false wanted r, t =>
      let found := (List.range (t.place + 1)).any fun i =>
        (ways line caseless r { t with place := i }).any fun u => u.place = t.place
      if found = wanted then [t] else []
  | once r, t => (ways line caseless r t).take 1
  | .caseless r, t => ways line true r t
  | keep, t => [{ t with groups := (keptGroup, t.place, t.place) :: t.groups }]
  | r, t =>
      let size := line.text.size + 1
      let g := r.grid line caseless
      let found := g.ends size (1 <<< t.place)
      match highest? found with
      | some place => [{ t with place }]
      | none => []

/-! ## Searching -/

/-- A match: where it starts, where it ends, and what its groups have matched. -/
structure Match where
  first : Nat
  last : Nat
  groups : Groups := []

/-- An expression, ready to be searched for in a text. -/
structure Searcher where
  line : Line
  regex : Regex
  grid : Grid
  /-- The places where matches start. -/
  starts : Nat
  recalls : Bool
  /-- Whether the longest match counts, and not the first one in the order of the expression. -/
  longest : Bool

namespace Searcher

/-- Makes an expression ready for a text. -/
def of (line : Line) (r : Regex) (longest : Bool := true) : Searcher :=
  let grid := r.grid line line.caseless
  let recalls := r.recalls
  { line, regex := r, grid, recalls, longest
    starts := if recalls then allPlaces line
      else grid.starts (line.text.size + 1) (allPlaces line) }

/-- The match that counts of those that start at a place. -/
def at? (s : Searcher) (start : Nat) (wanted : Nat := allPlaces s.line) : Option Match :=
  let finished (t : Trace) : Match :=
    match t.groups.lookup keptGroup with
    | some (first, _) => ⟨first, t.place, t.groups⟩
    | none => ⟨start, t.place, t.groups⟩
  if s.recalls then
    let all := (ways s.line s.line.caseless s.regex { place := start }).filter fun t =>
      wanted.testBit t.place
    let best := if s.longest then all.foldl (fun best t =>
        match best with
        | none => some t
        | some (b : Trace) => if b.place < t.place then some t else best) none
      else all.head?
    best.map finished
  else
    let size := s.line.text.size + 1
    let ends := s.grid.ends size (1 <<< start) &&& wanted
    (highest? ends).map fun last =>
      finished (s.grid.way size (if s.longest then 1 <<< last else ends) { place := start })

/-- The leftmost match that starts at a place or behind it; the first number bounds where. -/
def nextFrom (s : Searcher) (wanted : Nat) : Nat → Nat → Option Match
  | 0, _ => none
  | n + 1, start =>
      match lowest (s.line.text.size + 1) s.starts start with
      | none => none
      | some i => (s.at? i wanted).orElse fun _ => s.nextFrom wanted n (i + 1)

/-- The leftmost match that starts at a place or behind it. -/
def next? (s : Searcher) (start : Nat) : Option Match :=
  s.nextFrom (allPlaces s.line) (s.line.text.size + 1) start

/-- Whether the whole text matches. -/
def whole? (s : Searcher) : Option Match := s.at? 0 (1 <<< s.line.text.size)

/-- Whether there is a match. -/
def found (s : Searcher) : Bool :=
  if s.recalls then (s.next? 0).isSome else s.starts != 0

end Searcher

/-- The leftmost match that starts at a place or behind it. -/
def search (line : Line) (r : Regex) (start : Nat) : Option Match :=
  (Searcher.of line r).next? start

/-- The text of a group of a match; the whole match is group zero. -/
def Match.group (line : Line) (m : Match) (n : Nat) : String :=
  let (i, j) := if n = 0 then (m.first, m.last) else (m.groups.lookup n).getD (0, 0)
  String.ofList (line.text.extract i j).toList

end WasmBinary.Machine.Script.Regex
