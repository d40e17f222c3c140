/-
  Array literals are read back as the bytes that they stand for.

  1. **Reading** — a row is four blanks and then tokens with a comma behind each, and a blank
     between a comma and the next token (`readTokens`).  A row that was written is read back, and
     that the last token has its comma too is what makes its end known (`readRow_line`).

  2. **Lines** — the comment, the opening, the rows and the closing hold no newline as long as the
     name holds none, so that splitting the literal at its newlines finds them again
     (`splitOn_text`).

  3. **Literals** — the rows are the pieces of twelve bytes, so their tokens are read as the bytes
     and are as many as the comment says (`literal_read_back`).
-/
import WasmBinary.Proofs.Text.Listing
import WasmBinary.Text.ArrayLiteral

namespace WasmBinary.ArrayLiteral

/-! ## Reading -/

/-- Reads a token. -/
def token? : List Char → Option UInt8
  | '0' :: 'x' :: digits => Hex.byte? digits
  | _ => none

/-- Reads the tokens of a row, each with its comma. -/
def readTokens : List Char → Option Bytes
  | [a, b, c, d, ','] => do
      let value ← token? [a, b, c, d]
      return [value]
  | a :: b :: c :: d :: ',' :: ' ' :: rest => do
      let value ← token? [a, b, c, d]
      let values ← readTokens rest
      return value :: values
  | _ => none

/-- Reads a row: four blanks, then its tokens. -/
def readRow : List Char → Option Bytes
  | ' ' :: ' ' :: ' ' :: ' ' :: tokens => readTokens tokens
  | _ => none

/-- Reads a literal: the rows between the two lines of the opening and the closing line. -/
def read (text : String) : Option Bytes := do
  let pieces ← ((text.toList.splitOn '\n').drop 2).dropLast.mapM readRow
  return pieces.flatten

/-- A token is a tag and two digits. -/
theorem exists_token (b : UInt8) :
    ∃ high low, token b = ['0', 'x', high, low] ∧ high ∈ Hex.alphabet ∧ low ∈ Hex.alphabet := by
  have hb : b.toNat < 256 := b.toNat_lt
  refine ⟨(b.toNat / 16).digitChar, (b.toNat % 16).digitChar, ?_,
    Hex.digitChar_mem_alphabet _ (by omega), Hex.digitChar_mem_alphabet _ (by omega)⟩
  rw [token, Hex.byte_eq]
  rfl

theorem token?_token (b : UInt8) : token? (token b) = some b :=
  Hex.byte?_byte b

/-- The last token of a row is read with the comma behind it; nothing is left after that. -/
theorem readTokens_last (b : UInt8) : readTokens (token b ++ [',']) = some [b] := by
  have hread := token?_token b
  obtain ⟨high, low, htoken, -⟩ := exists_token b
  rw [htoken] at hread ⊢
  show (token? _).bind _ = _
  rw [hread]
  rfl

/-- A token that others follow is read up to the blank behind its comma, and the others are read
    from there. -/
theorem readTokens_next (b : UInt8) (rest : List Char) :
    readTokens (token b ++ ',' :: ' ' :: rest) = (readTokens rest).map (b :: ·) := by
  have hread := token?_token b
  obtain ⟨high, low, htoken, -⟩ := exists_token b
  rw [htoken] at hread ⊢
  show (token? _).bind _ = _
  rw [hread]
  cases readTokens rest <;> rfl

/-- A row of several tokens, the first one apart. -/
theorem intercalate_tokens (b next : UInt8) (piece : Bytes) :
    [',', ' '].intercalate ((b :: next :: piece).map token) ++ [',']
      = token b ++ ',' :: ' ' :: ([',', ' '].intercalate ((next :: piece).map token) ++ [',']) := by
  simp

/-- The bytes of a row are read back.  The induction follows the tokens: of the last one only the
    comma is behind it, and the others have a blank there too. -/
theorem readRow_line {piece : Bytes} (h : piece ≠ []) : readRow (line piece) = some piece := by
  show readTokens ([',', ' '].intercalate (piece.map token) ++ [',']) = some piece
  induction piece with
  | nil => exact absurd rfl h
  | cons b piece ih =>
    cases piece with
    | nil =>
      rw [List.map_singleton, List.intercalate_singleton, readTokens_last]
    | cons next piece =>
      rw [intercalate_tokens, readTokens_next, ih (List.cons_ne_nil _ _)]
      rfl

/-! ## Lines -/

/-- The comment in front. -/
def comment (data : Bytes) (name : String) : List Char :=
  "// ".toList ++ name.toList ++ " - ".toList ++ Nat.toDigits 10 data.length ++ " bytes".toList

/-- The lines of a literal in front of the last. -/
def lines (data : Bytes) (name : String) : List (List Char) :=
  comment data name :: "return new Uint8Array([".toList :: (chunks width data).map line

/-- A literal is its lines, each with its end, and the closing line without one. -/
theorem toList_text (data : Bytes) (name : String) :
    (text data name).toList = (lines data name).flatMap (· ++ ['\n']) ++ "]);".toList := by
  simp [text, opening, lines, comment, List.flatMap_map]

/-- The comment has the name in it as it is, so it is one line exactly where the name is.  The
    number in it has digits only. -/
theorem newline_notMem_comment (data : Bytes) {name : String} (h : '\n' ∉ name.toList) :
    '\n' ∉ comment data name := by
  have hdigits : '\n' ∉ Nat.toDigits 10 data.length := fun hmem =>
    absurd (Nat.isDigit_of_mem_toDigits (by decide) (by decide) hmem) (by decide)
  simp [comment, h, hdigits]

/-- A token is written with two fixed characters and two digits. -/
theorem newline_notMem_token (b : UInt8) : '\n' ∉ token b := by
  have halphabet : '\n' ∉ Hex.alphabet := by
    decide
  have hbyte : '\n' ∉ Hex.byte b := fun hmem => halphabet (Hex.mem_alphabet_of_mem_digits hmem)
  simp [token, hbyte]

/-- A row is one line, however many tokens it has. -/
theorem newline_notMem_line (piece : Bytes) : '\n' ∉ line piece := by
  have htokens : '\n' ∉ [',', ' '].intercalate (piece.map token) := by
    induction piece with
    | nil => simp
    | cons b piece ih =>
      cases piece with
      | nil =>
        rw [List.map_singleton, List.intercalate_singleton]
        exact newline_notMem_token b
      | cons next piece =>
        rw [List.map_cons] at ih
        simp [newline_notMem_token b, ih]
  simp [line, htokens]

/-- The literal splits into the lines that were written.  A name with a newline would end the
    comment too early, and what is behind it would be read as a row. -/
theorem splitOn_text (data : Bytes) {name : String} (h : '\n' ∉ name.toList) :
    (text data name).toList.splitOn '\n' = lines data name ++ ["]);".toList] := by
  have hlines : ∀ l ∈ lines data name, '\n' ∉ l := by
    rw [lines, List.forall_mem_cons, List.forall_mem_cons, List.forall_mem_map]
    exact ⟨newline_notMem_comment data h, by decide, fun piece _ => newline_notMem_line piece⟩
  rw [toList_text]
  exact splitOn_lines hlines (by decide)

/-! ## Literals -/

/-- A literal is read back as the bytes that it was written for, as long as its name stays on one
    line. -/
theorem read_text (data : Bytes) {name : String} (h : '\n' ∉ name.toList) :
    read (text data name) = some data := by
  -- in front of the rows are the comment and the opening, and the closing is behind them
  have hrows : ((lines data name ++ ["]);".toList]).drop 2).dropLast
      = (chunks width data).map line :=
    List.dropLast_concat
  have hread : ((chunks width data).map line).mapM readRow = some (chunks width data) :=
    mapM_map_eq_some fun _ hpiece => readRow_line (chunk_bounds (by decide) hpiece).1
  rw [read, splitOn_text data h, hrows, hread]
  exact congrArg some (flatten_chunks data (by decide))

/-- A row as its tokens stand in it. -/
def row (tokens : List (List Char)) : List Char :=
  "    ".toList ++ ", ".toList.intercalate tokens ++ ",".toList

/-- **An array literal carries exactly the bytes.**  Split at its newlines it is a comment with the
    name and a number, the opening, one row for each twelve bytes or part of twelve, and the closing
    with nothing behind it.  No row is empty and only the last may be shorter than twelve tokens.
    Each token is a tag and two digits.  Read in order the tokens are the bytes, and the number in
    the comment is how many they are. -/
theorem literal_read_back (data : Bytes) (name : String) (h : '\n' ∉ name.toList) :
    (∃ rows : List (List (List Char)),
      (text data name).toList.splitOn '\n'
        = ["// ".toList ++ name.toList ++ " - ".toList ++ (toString data.length).toList
            ++ " bytes".toList, "return new Uint8Array([".toList]
          ++ rows.map row ++ ["]);".toList] ∧
      rows.length = data.length ⌈/⌉ 12 ∧
      (∀ i tokens, rows[i]? = some tokens → tokens ≠ [] ∧ tokens.length ≤ 12 ∧
        (i + 1 < rows.length → tokens.length = 12)) ∧
      (∀ tokens ∈ rows, ∀ token ∈ tokens, ∃ high low, token = ['0', 'x', high, low] ∧
        high ∈ Hex.alphabet ∧ low ∈ Hex.alphabet) ∧
      rows.flatten.mapM token? = some data ∧
      rows.flatten.length = data.length) ∧
    read (text data name) = some data := by
  -- the tokens of all rows, one after the other, are those of all bytes
  have hflatten : ((chunks width data).map fun piece => piece.map token).flatten
      = data.map token := by
    rw [← List.map_flatten, flatten_chunks data (by decide)]
  refine ⟨⟨(chunks width data).map fun piece => piece.map token, ?_, ?_, fun i tokens hi => ?_,
    fun tokens htokens t ht => ?_, ?_, ?_⟩, read_text data h⟩
  · have hcomment : comment data name = "// ".toList ++ name.toList ++ " - ".toList
        ++ (toString data.length).toList ++ " bytes".toList := by
      simp [comment]
    rw [splitOn_text data h, List.map_map, lines, hcomment]
    rfl
  · rw [List.length_map]
    exact length_chunks (by decide) data
  · -- a row has the tokens of its piece, and so as many as the piece has bytes
    obtain ⟨piece, hpiece, rfl⟩ := Option.map_eq_some_iff.mp (List.getElem?_map ▸ hi)
    obtain ⟨hne, hle⟩ := chunk_bounds (by decide) (List.mem_of_getElem? hpiece)
    rw [List.length_map, List.length_map]
    exact ⟨by simpa using hne, hle, fun hnext => length_chunk (by decide) hpiece hnext⟩
  · obtain ⟨piece, -, rfl⟩ := List.mem_map.mp htokens
    obtain ⟨b, -, rfl⟩ := List.mem_map.mp ht
    exact exists_token b
  · rw [hflatten]
    exact mapM_map_eq_some fun b _ => token?_token b
  · rw [hflatten, List.length_map]

/-- Thirteen bytes take two rows, and a name that looks like the end of a comment does no harm. -/
theorem literal_read_back_thirteen :
    '\n' ∉ "x - 2 bytes".toList ∧
    ((text (List.replicate 13 0xAB) "x - 2 bytes").toList.splitOn '\n').length = 5 ∧
    read (text (List.replicate 13 0xAB) "x - 2 bytes") = some (List.replicate 13 0xAB) := by
  have hname : '\n' ∉ "x - 2 bytes".toList := by
    decide
  obtain ⟨⟨rows, hsplit, hlength, -⟩, hread⟩ :=
    literal_read_back (List.replicate 13 0xAB) "x - 2 bytes" hname
  have hrows : rows.length = 2 := hlength
  refine ⟨hname, ?_, hread⟩
  rw [hsplit, List.length_append, List.length_append, List.length_map, hrows]
  rfl

end WasmBinary.ArrayLiteral
