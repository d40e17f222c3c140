/-
  Hex dumps are read back as the bytes that they show.

  1. **Reading** — a line is read by its hexadecimal column alone: the offset is skipped up to the
     first blank, two blanks go with it, and the next 48 characters are words with blanks between
     them, each a byte of two digits.  Neither the offset nor the characters at the end matter, and
     the blanks that fill the column hold no word (`words_column`).

  2. **Layout** — a line is laid out as it should be (`line_laid`), and every character of it can be
     printed on a line (`line_printable`).  A newline among the bytes is shown as a point, so that
     a line of the dump is one line of the text.

  3. **Dumps** — so the text splits into the lines that were written, one for each piece of sixteen
     bytes, and their columns are read as the pieces (`dump_read_back`).
-/
import Mathlib.Data.List.Forall2
import WasmBinary.Proofs.Text.Listing
import WasmBinary.Text.HexDump

namespace WasmBinary.HexDump

/-! ## Reading -/

/-- The words of a text, as blanks part them. -/
def words (text : List Char) : List (List Char) :=
  (text.splitOn ' ').filter (· ≠ [])

/-- Reads the bytes of a line. -/
def readLine (line : List Char) : Option Bytes :=
  (words (((line.dropWhile (· ≠ ' ')).drop 2).take 48)).mapM Hex.byte?

/-- Reads the bytes of a dump, line by line. -/
def read (text : String) : Option Bytes := do
  let pieces ← (text.toList.splitOn '\n').dropLast.mapM readLine
  return pieces.flatten

/-- A blank ends a word. -/
theorem words_append_blank (front rest : List Char) :
    words (front ++ ' ' :: rest) = words front ++ words rest := by
  simp only [words, List.splitOn_eq_splitOnP]
  rw [List.splitOnP_append_cons front rest (by rfl), List.filter_append]

theorem words_blanks (k : Nat) : words (List.replicate k ' ') = [] := by
  induction k with
  | zero => rfl
  | succ k ih =>
    rw [List.replicate_succ, ← List.nil_append (' ' :: _), words_append_blank, ih]
    rfl

/-- A text without blanks is one word, unless it is empty. -/
theorem words_of_blank_notMem {word : List Char} (hne : word ≠ []) (h : ' ' ∉ word) :
    words word = [word] := by
  have hsplit : word.splitOn ' ' = [word] := by
    rw [List.splitOn_eq_splitOnP, List.splitOnP_eq_singleton]
    intro c hc
    rw [beq_eq_false_iff_ne]
    exact fun heq => h (heq ▸ hc)
  simp [words, hsplit, hne]

theorem blank_notMem_alphabet : ' ' ∉ Hex.alphabet := by
  decide

/-- A byte is a word: its two digits have no blank between them. -/
theorem words_byte (b : UInt8) : words (Hex.byte b) = [Hex.byte b] := by
  refine words_of_blank_notMem ?_ fun h => blank_notMem_alphabet (Hex.mem_alphabet_of_mem_digits h)
  rw [Hex.byte_eq]
  exact List.cons_ne_nil _ _

theorem spaced_singleton (b : UInt8) : Hex.spaced [b] = Hex.byte b := by
  simp [Hex.spaced]

theorem spaced_cons_cons (b next : UInt8) (data : Bytes) :
    Hex.spaced (b :: next :: data) = Hex.byte b ++ ' ' :: Hex.spaced (next :: data) := by
  simp [Hex.spaced]

/-- The words of a column are the bytes, however many blanks fill it.  This is why a shorter last
    line is read as the others are. -/
theorem words_column (data : Bytes) (k : Nat) :
    words (Hex.spaced data ++ List.replicate k ' ') = data.map Hex.byte := by
  induction data with
  | nil => exact words_blanks k
  | cons b data ih =>
    cases data with
    | nil =>
      rw [spaced_singleton]
      cases k with
      | zero => rw [List.replicate_zero, List.append_nil, words_byte]; rfl
      | succ k => rw [List.replicate_succ, words_append_blank, words_byte, words_blanks]; rfl
    | cons next data =>
      rw [spaced_cons_cons, List.append_assoc, List.cons_append, words_append_blank, words_byte, ih]
      rfl

/-- Two digits for each byte, and a blank between two. -/
theorem length_spaced (data : Bytes) : (Hex.spaced data).length = 3 * data.length - 1 := by
  induction data with
  | nil => rfl
  | cons b data ih =>
    have hbyte : (Hex.byte b).length = 2 := by
      rw [Hex.byte_eq]
      rfl
    cases data with
    | nil => rw [spaced_singleton, hbyte]; rfl
    | cons next data =>
      rw [spaced_cons_cons, List.length_append, List.length_cons, ih, hbyte]
      simp only [List.length_cons]
      omega

/-- The column has 48 characters for every piece of sixteen bytes or fewer, so that what is behind
    it always starts at the same place. -/
theorem length_column {piece : Bytes} (h : piece.length ≤ 16) :
    ((Hex.spaced piece).rightpad column ' ').length = 48 := by
  rw [List.length_rightpad, length_spaced]
  show max 48 _ = 48
  omega

/-- The bytes of a line are read back.  The offset may have more than four digits, but has no blank
    in it, so the column is found behind the first two blanks. -/
theorem readLine_line {piece : Bytes} (h : piece.length ≤ 16) (offset : Nat) :
    readLine (line offset piece) = some piece := by
  have hoffset : ∀ c ∈ Hex.digits 4 offset, decide (c ≠ ' ') = true := by
    intro c hc
    rw [decide_eq_true_iff]
    rintro rfl
    exact blank_notMem_alphabet (Hex.mem_alphabet_of_mem_digits hc)
  -- behind the offset there are two blanks, and then 48 characters are the column
  have hcolumn : (((line offset piece).dropWhile (· ≠ ' ')).drop 2).take 48
      = (Hex.spaced piece).rightpad column ' ' := by
    rw [line, List.append_assoc, List.append_assoc, List.append_assoc,
      List.dropWhile_append_of_pos hoffset]
    exact List.take_left' (length_column h)
  rw [readLine, hcolumn, List.rightpad, words_column]
  exact mapM_map_eq_some fun b _ => Hex.byte?_byte b

/-! ## Layout -/

/-- A byte shows as the character that it is where that can be printed, and else as a point. -/
def Shows (b : UInt8) (c : Char) : Prop :=
  if 0x20 ≤ b ∧ b ≤ 0x7E then c.toNat = b.toNat else c = '.'

/-- How a line is laid out: the offset in four digits at least, two blanks, the bytes in a column
    of 48 characters, a blank, and a character for each byte. -/
def Laid (offset : Nat) (piece : Bytes) (line : List Char) : Prop :=
  ∃ number tokens blanks shown,
    line = number ++ [' ', ' '] ++ ([' '].intercalate tokens ++ List.replicate blanks ' ') ++ [' ']
      ++ shown ∧
    Hex.Numeral 4 offset number ∧
    tokens.mapM Hex.byte? = some piece ∧
    ([' '].intercalate tokens ++ List.replicate blanks ' ').length = 48 ∧
    List.Forall₂ Shows piece shown

/-- The character that is written for a byte is the one that it should show as.  Bytes above the
    printable ones are not taken for characters of several bytes. -/
theorem shows_shown (b : UInt8) : Shows b (shown b) := by
  rw [Shows, shown]
  split
  case isTrue hb =>
    have hvalid : b.toNat.isValidChar := Or.inl (Nat.lt_trans b.toNat_lt (by decide))
    rw [Char.ofNat, dif_pos hvalid]
    rfl
  case isFalse => rfl

/-- A line that is written is laid out as it should be, whatever its offset is. -/
theorem line_laid {piece : Bytes} (h : piece.length ≤ 16) (offset : Nat) :
    Laid offset piece (line offset piece) := by
  refine ⟨_, piece.map Hex.byte, column - (Hex.spaced piece).length, _, rfl,
    (Hex.numeral_iff (by decide)).mpr rfl, ?_, length_column h, ?_⟩
  · exact mapM_map_eq_some fun b _ => Hex.byte?_byte b
  · rw [List.forall₂_map_right_iff, List.forall₂_same]
    exact fun b _ => shows_shown b

/-- A character that can be printed on a line. -/
def Printable (c : Char) : Prop :=
  0x20 ≤ c.toNat ∧ c.toNat ≤ 0x7E

theorem printable_blank : Printable ' ' :=
  ⟨by decide, by decide⟩

/-- Digits can be printed, those of an offset as those of a byte. -/
theorem printable_of_mem_digits {width n : Nat} {c : Char} (h : c ∈ Hex.digits width n) :
    Printable c := by
  obtain ⟨hlow, hhigh⟩ := Hex.printable_of_mem_alphabet c (Hex.mem_alphabet_of_mem_digits h)
  exact ⟨Nat.le_of_lt hlow, hhigh⟩

/-- A column has digits and blanks in it, and nothing else. -/
theorem printable_of_mem_spaced {data : Bytes} {c : Char} (h : c ∈ Hex.spaced data) :
    Printable c := by
  induction data with
  | nil => nomatch h
  | cons b data ih =>
    cases data with
    | nil =>
      rw [spaced_singleton] at h
      exact printable_of_mem_digits h
    | cons next data =>
      rw [spaced_cons_cons, List.mem_append, List.mem_cons] at h
      rcases h with h | rfl | h
      · exact printable_of_mem_digits h
      · exact printable_blank
      · exact ih h

/-- What a byte shows as can be printed, although the byte may not. -/
theorem printable_shown (b : UInt8) : Printable (shown b) := by
  have hshows := shows_shown b
  rw [Shows] at hshows
  split at hshows
  case isTrue hb =>
    rw [Printable, hshows]
    exact hb
  case isFalse =>
    rw [hshows]
    exact ⟨by decide, by decide⟩

/-- No character of a line ends it: every one of them can be printed, whatever bytes the line
    shows. -/
theorem line_printable {offset : Nat} {piece : Bytes} {c : Char} (h : c ∈ line offset piece) :
    Printable c := by
  simp only [line, List.rightpad, List.mem_append] at h
  rcases h with (((h | h) | h | h) | h) | h
  · exact printable_of_mem_digits h
  · rw [show c = ' ' by simpa using h]
    exact printable_blank
  · exact printable_of_mem_spaced h
  · rw [(List.mem_replicate.mp h).2]
    exact printable_blank
  · rw [List.mem_singleton.mp h]
    exact printable_blank
  · obtain ⟨b, -, rfl⟩ := List.mem_map.mp h
    exact printable_shown b

/-! ## Dumps -/

/-- The lines of a dump, without their ends. -/
def lines (data : Bytes) : List (List Char) :=
  (chunks width data).mapIdx fun i piece => line (width * i) piece

/-- A dump is its lines, each with its end. -/
theorem toList_text (data : Bytes) :
    (text data).toList = (lines data).flatMap (· ++ ['\n']) := by
  rw [text, lines, String.toList_ofList, List.flatMap_def]
  congr 1
  -- the two lists of lines are compared place by place
  refine List.ext_getElem? fun i => ?_
  simp [Function.comp_def]

/-- Line `i` shows piece `i`. -/
theorem getElem?_lines {data : Bytes} {i : Nat} {l : List Char} (h : (lines data)[i]? = some l) :
    ∃ piece, (chunks width data)[i]? = some piece ∧ l = line (width * i) piece := by
  rw [lines, List.getElem?_mapIdx, Option.map_eq_some_iff] at h
  obtain ⟨piece, hpiece, rfl⟩ := h
  exact ⟨piece, hpiece, rfl⟩

/-- Every character between the ends of lines can be printed. -/
theorem printable_of_mem_lines {data : Bytes} {l : List Char} (hl : l ∈ lines data) {c : Char}
    (hc : c ∈ l) : Printable c := by
  obtain ⟨i, hi⟩ := List.mem_iff_getElem?.mp hl
  obtain ⟨piece, -, rfl⟩ := getElem?_lines hi
  exact line_printable hc

/-- The text splits into the lines that were written, and nothing behind the last of them.  The
    bytes of newlines do not count, as they show as points. -/
theorem splitOn_text (data : Bytes) : (text data).toList.splitOn '\n' = lines data ++ [[]] := by
  have hlines : ∀ l ∈ lines data, '\n' ∉ l := by
    intro l hl hnewline
    -- a newline is below the characters that can be printed
    obtain ⟨hlow, -⟩ := printable_of_mem_lines hl hnewline
    exact absurd hlow (by decide)
  rw [toList_text, ← List.append_nil (List.flatMap _ _)]
  exact splitOn_lines hlines List.not_mem_nil

/-- The columns of the lines are read as the pieces. -/
theorem mapM_readLine_lines (data : Bytes) :
    (lines data).mapM readLine = some (chunks width data) :=
  mapM_mapIdx_eq_some fun i _ hpiece =>
    readLine_line (chunk_bounds (by decide) hpiece).2 (width * i)

/-- A dump is read back as the bytes that it was written for. -/
theorem read_text (data : Bytes) : read (text data) = some data := by
  rw [read, splitOn_text, List.dropLast_concat, mapM_readLine_lines]
  exact congrArg some (flatten_chunks data (by decide))

/-- **A hex dump is laid out line by line and can be read back.**  It has one line for each sixteen
    bytes or part of sixteen, each with its end behind it and nothing in it but characters that can
    be printed.  Line `i` has the offset of its bytes, their column and a character for each of
    them.  The columns, read line by line, are the bytes, so that no two byte strings have the same
    dump. -/
theorem dump_read_back (data : Bytes) :
    (∃ lines : List (List Char),
      (text data).toList = lines.flatMap (· ++ ['\n']) ∧
      lines.length = data.length ⌈/⌉ 16 ∧
      (∀ line ∈ lines, ∀ c ∈ line, Printable c) ∧
      ∀ i line, lines[i]? = some line → Laid (16 * i) ((data.drop (16 * i)).take 16) line) ∧
    read (text data) = some data ∧
    ∀ other, text other = text data → other = data := by
  refine ⟨⟨lines data, toList_text data, ?_, fun l hl c hc => printable_of_mem_lines hl hc,
    fun i l hl => ?_⟩, read_text data, fun other h => ?_⟩
  · rw [lines, List.length_mapIdx]
    exact length_chunks (by decide) data
  · obtain ⟨piece, hpiece, rfl⟩ := getElem?_lines hl
    obtain ⟨-, rfl⟩ := chunk_eq (by decide) hpiece
    exact line_laid (List.length_take_le _ _) (width * i)
  · -- equal dumps are read as the same bytes
    have hread := read_text other
    rw [h, read_text] at hread
    exact (Option.some.inj hread).symm

/-- A newline shows as a point. -/
example : text [0x41, 0x0A] = "0000  41 0a                                            A.\n" := by
  cbv

end WasmBinary.HexDump
