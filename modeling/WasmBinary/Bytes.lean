/-
  Byte strings, their regions and their chunks.

  A binary module, an encoded number and a file's content are all plain lists of bytes, so that
  taking, dropping and appending are the list operations and every law about them is a law of
  lists.  A REGION names a stretch of a byte string by offset and length; it may reach past the
  end, and then names only what is there.  CHUNKS are the lines of a listing: pieces of one width
  that give the byte string back when they are joined.
-/

namespace WasmBinary

/-- A byte string. -/
abbrev Bytes := List UInt8

/-- The stretch of `length` bytes that starts `offset` bytes in. -/
structure Region where
  offset : Nat
  length : Nat
deriving DecidableEq, Repr

/-- The bytes of `data` that lie in the region. -/
def Region.of (r : Region) (data : Bytes) : Bytes :=
  (data.drop r.offset).take r.length

@[simp] theorem Region.of_append (before middle after : Bytes) :
    Region.of ⟨before.length, middle.length⟩ (before ++ (middle ++ after)) = middle := by
  simp [Region.of]

/-- Cuts a byte string into pieces of `width` bytes; the last piece may be shorter.  There are no
    pieces of width zero. -/
def chunks (width : Nat) (data : Bytes) : List Bytes :=
  if data = [] ∨ width = 0 then []
  else data.take width :: chunks width (data.drop width)
termination_by data.length
decreasing_by
  have : data.length ≠ 0 := by simp_all
  simp only [List.length_drop]
  omega

theorem flatten_chunks {width : Nat} (data : Bytes) (h : width ≠ 0) :
    (chunks width data).flatten = data := by
  fun_induction chunks width data with
  | case1 data hd => simp_all
  | case2 data hd ih => simp [ih]

end WasmBinary
