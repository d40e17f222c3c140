/-
  Remarks about patterns.

  A pattern may be well formed and still not say what its writer meant.

  1. **Sets** that look like the name of a class, which has brackets of its own, are wrong.

  2. **Repetitions** that have nothing in front of them are only remarked.
-/
import WasmBinary.Machine.Script.Regex.Reading

namespace WasmBinary.Machine.Script.Regex

/-- What is remarked about a pattern, and what is wrong with it if that is more than a remark. -/
structure Remarks where
  lines : List String := []
  fault : Option String := none

/-- Whether the text of a set looks like the name of a class. -/
def looksLikeClass (body : List Char) : Bool :=
  let body := if body.head? = some '^' then body.drop 1 else body
  body.head? = some ':' && body.getLast? = some ':' && body.any (· ≠ ':') &&
    !body.contains '[' && !body.contains '-'

/-- The text of a set up to its closing bracket, and what is behind it. -/
def setText : Nat → List Char → List Char → List Char × List Char
  | 0, seen, rest => (seen.reverse, rest)
  | _, seen, [] => (seen.reverse, [])
  | n + 1, seen, '[' :: mark :: rest =>
      if mark = ':' || mark = '.' || mark = '=' then
        let inner := rest.takeWhile (· ≠ ']')
        setText n (']' :: (inner.reverse ++ mark :: '[' :: seen)) (rest.drop (inner.length + 1))
      else setText n ('[' :: seen) (mark :: rest)
  | n + 1, seen, c :: rest =>
      let first := seen.all (· = '^') && seen.length ≤ 1
      if c = ']' && !first then (seen.reverse, rest) else setText n (c :: seen) rest

/-- How a repetition is called. -/
def repetitionName : Token → Option String
  | .star => some "*"
  | .plus => some "+"
  | .question => some "?"
  | .openBrace => some "\x7b...\x7d"
  | _ => none

/-- What is remarked about what is left of a pattern.  The flag tells that nothing stands in front
    that could be repeated. -/
def remarksFrom (d : Dialect) : Nat → (bare : Bool) → Source → Remarks
  | 0, _, _ => {}
  | n + 1, bare, s =>
      let (token, width) := Token.next d s
      let rest := { s with rest := s.rest.drop width, fresh := false }
      match token with
      | .nothing => {}
      | .bracket =>
          let (body, behind) := setText rest.rest.length [] rest.rest
          if looksLikeClass body then
            { fault := some "character class syntax is [[:space:]], not [:space:]" }
          else remarksFrom d n false { rest with rest := behind }
      | .bar | .opening => remarksFrom d n true { rest with fresh := true }
      | .place _ => remarksFrom d n bare rest
      | token =>
          let brace := match token with
            | .openBrace => true
            | _ => false
          let ordinary := d.bare && brace && !repeats rest.rest
          match repetitionName token, ordinary with
          | some name, false =>
              let after := remarksFrom d n (bare && !brace) (if brace then
                { rest with rest := (rest.rest.dropWhile fun c => c.toNat ≠ 0x7d).drop 1 }
                else rest)
              if bare && d.bare then
                { after with lines := (name ++ " at start of expression") :: after.lines }
              else after
          | _, _ => remarksFrom d n false rest
where
  /-- Whether a text goes on like a repetition with a brace in front of it. -/
  repeats (cs : List Char) : Bool :=
    let body := cs.takeWhile fun c => c.toNat ≠ 0x7d
    body.length < cs.length && body ≠ [] && body.all (fun c => c.isDigit || c = ',') &&
      body.count ',' ≤ 1

/-- What is remarked about a pattern. -/
def remarks (d : Dialect) (pattern : String) : Remarks :=
  remarksFrom d (pattern.length + 1) true { rest := pattern.toList }

end WasmBinary.Machine.Script.Regex
