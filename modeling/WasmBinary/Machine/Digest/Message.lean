/-
  Digests of messages: one of 128 bits, two of 256 bits or fewer that came later, and checksums,
  which are small numbers that tell whether bytes were changed by accident.
-/
import WasmBinary.Machine.Digest.Sha

namespace WasmBinary.Machine.Digest

/-! ## 128 bits -/

/-- The state of the digest of 128 bits. -/
structure FourWords where
  a : UInt32
  b : UInt32
  c : UInt32
  d : UInt32

/-- The first bits of the sines of the first numbers. -/
def sines : Array UInt32 :=
  #[0xd76aa478, 0xe8c7b756, 0x242070db, 0xc1bdceee, 0xf57c0faf, 0x4787c62a, 0xa8304613, 0xfd469501,
    0x698098d8, 0x8b44f7af, 0xffff5bb1, 0x895cd7be, 0x6b901122, 0xfd987193, 0xa679438e, 0x49b40821,
    0xf61e2562, 0xc040b340, 0x265e5a51, 0xe9b6c7aa, 0xd62f105d, 0x02441453, 0xd8a1e681, 0xe7d3fbc8,
    0x21e1cde6, 0xc33707d6, 0xf4d50d87, 0x455a14ed, 0xa9e3e905, 0xfcefa3f8, 0x676f02d9, 0x8d2a4c8a,
    0xfffa3942, 0x8771f681, 0x6d9d6122, 0xfde5380c, 0xa4beea44, 0x4bdecfa9, 0xf6bb4b60, 0xbebfbc70,
    0x289b7ec6, 0xeaa127fa, 0xd4ef3085, 0x04881d05, 0xd9d4d039, 0xe6db99e5, 0x1fa27cf8, 0xc4ac5665,
    0xf4292244, 0x432aff97, 0xab9423a7, 0xfc93a039, 0x655b59c3, 0x8f0ccc92, 0xffeff47d, 0x85845dd1,
    0x6fa87e4f, 0xfe2ce6e0, 0xa3014314, 0x4e0811a1, 0xf7537e82, 0xbd3af235, 0x2ad7d2bb, 0xeb86d391]

/-- How far words are turned in the four parts of a block. -/
def turnsOfFour (i : Nat) : UInt32 :=
  let row : List UInt32 := match i / 16 with
    | 0 => [7, 12, 17, 22]
    | 1 => [5, 9, 14, 20]
    | 2 => [4, 11, 16, 23]
    | _ => [6, 10, 15, 21]
  row.getD (i % 4) 0

/-- A round for a block that starts at a position. -/
def roundOfFour (data : ByteArray) (start : Nat) (s : FourWords) (i : Nat) : FourWords :=
  let (f, index) : UInt32 × Nat :=
    match i / 16 with
    | 0 => ((s.b &&& s.c) ||| (~~~s.b &&& s.d), i)
    | 1 => ((s.d &&& s.b) ||| (~~~s.d &&& s.c), (5 * i + 1) % 16)
    | 2 => (s.b ^^^ s.c ^^^ s.d, (3 * i + 5) % 16)
    | _ => (s.c ^^^ (s.b ||| ~~~s.d), 7 * i % 16)
  let word := (lowFirst data (start + 4 * index) 4).toUInt32
  let sum := s.a + f + sines.getD i 0 + word
  { a := s.d, b := s.b + turned (turnsOfFour i) sum, c := s.b, d := s.c }

/-- The digest of 128 bits. -/
def md5 (data : ByteArray) : List UInt8 :=
  let text := padded 64 8 false data
  let step (s : FourWords) (start : Nat) : FourWords :=
    let t := (List.range 64).foldl (roundOfFour text start) s
    { a := s.a + t.a, b := s.b + t.b, c := s.c + t.c, d := s.d + t.d }
  let s := overBlocks 64 text step
    { a := 0x67452301, b := 0xEFCDAB89, c := 0x98BADCFE, d := 0x10325476 }
  [s.a, s.b, s.c, s.d].flatMap fun word => lowBytes 4 word.toNat

/-! ## 256 bits, of another family -/

/-- A word with some of its turns added without carry. -/
def mixedBy (first second : UInt32) (x : UInt32) : UInt32 :=
  x ^^^ turned first x ^^^ turned second x

/-- The words that a block becomes. -/
def schedule3 (data : ByteArray) (start : Nat) : Array UInt32 :=
  let first : Array UInt32 :=
    ((List.range 16).map fun i => (highFirst data (start + 4 * i) 4).toUInt32).toArray
  (List.range 52).foldl (fun (w : Array UInt32) i =>
    let word (k : Nat) : UInt32 := w.getD (i + 16 - k) 0
    w.push (mixedBy 15 23 (word 16 ^^^ word 9 ^^^ turned 15 (word 3)) ^^^ turned 7 (word 13) ^^^
      word 6)) first

/-- A round. -/
def round3 (words : Array UInt32) (state : List UInt32) (i : Nat) : List UInt32 :=
  match state with
  | [a, b, c, d, e, f, g, h] =>
      let early : Bool := i < 16
      let k : UInt32 := if early then 0x79cc4519 else 0x7a879d8a
      let s := turned 7 (turned 12 a + e + (if i % 32 = 0 then k
        else turned (UInt32.ofNat (i % 32)) k))
      let x := if early then a ^^^ b ^^^ c else (a &&& b) ||| (a &&& c) ||| (b &&& c)
      let y := if early then e ^^^ f ^^^ g else (e &&& f) ||| (~~~e &&& g)
      let t := x + d + (s ^^^ turned 12 a) + (words.getD i 0 ^^^ words.getD (i + 4) 0)
      let u := y + h + s + words.getD i 0
      [t, a, turned 9 b, c, mixedBy 9 17 u, e, turned 19 f, g]
  | other => other

/-- The digest of 256 bits of this family. -/
def sm3 (data : ByteArray) : List UInt8 :=
  let text := padded 64 8 true data
  let step (state : List UInt32) (start : Nat) : List UInt32 :=
    List.zipWith (· ^^^ ·) state ((List.range 64).foldl (round3 (schedule3 text start)) state)
  (overBlocks 64 text step
    [0x7380166f, 0x4914b2b9, 0x172442d7, 0xda8a0600, 0xa96f30bc, 0x163138aa, 0xe38dee4d,
      0xb0fb0e4e]).flatMap fun word => highBytes 4 word.toNat

/-! ## Up to 512 bits -/

/-- The order in which the words of a block are taken, row by row. -/
def orders : List (List Nat) :=
  [ [0, 1, 2, 3, 4, 5, 6, 7, 8, 9, 10, 11, 12, 13, 14, 15],
    [14, 10, 4, 8, 9, 15, 13, 6, 1, 12, 0, 2, 11, 7, 5, 3],
    [11, 8, 12, 0, 5, 2, 15, 13, 10, 14, 3, 6, 7, 1, 9, 4],
    [7, 9, 3, 1, 13, 12, 11, 14, 2, 6, 5, 10, 4, 0, 15, 8],
    [9, 0, 5, 7, 2, 4, 10, 15, 14, 1, 11, 12, 6, 8, 3, 13],
    [2, 12, 6, 10, 0, 11, 8, 3, 4, 13, 7, 5, 15, 14, 1, 9],
    [12, 5, 1, 15, 14, 13, 4, 10, 0, 7, 6, 3, 9, 2, 8, 11],
    [13, 11, 7, 14, 12, 1, 3, 9, 5, 0, 15, 4, 8, 6, 2, 10],
    [6, 15, 14, 9, 11, 3, 0, 8, 12, 2, 13, 7, 1, 4, 10, 5],
    [10, 2, 8, 4, 7, 6, 1, 5, 15, 11, 9, 14, 3, 12, 13, 0] ]

/-- The words that are mixed together, four at a time. -/
def quarters : List (Nat × Nat × Nat × Nat) :=
  [ (0, 4, 8, 12), (1, 5, 9, 13), (2, 6, 10, 14), (3, 7, 11, 15), (0, 5, 10, 15), (1, 6, 11, 12),
    (2, 7, 8, 13), (3, 4, 9, 14) ]

/-- A word of 64 bits that is turned to the right. -/
def turnedRight (n x : UInt64) : UInt64 := (x >>> n) ||| (x <<< (64 - n))

/-- Mixes four words of a state with two words of a block. -/
def mixQuarter (v : Array UInt64) (q : Nat × Nat × Nat × Nat) (x y : UInt64) : Array UInt64 :=
  let (i, j, k, l) := q
  let (a, b, c, d) := (v.getD i 0, v.getD j 0, v.getD k 0, v.getD l 0)
  let a := a + b + x
  let d := turnedRight 32 (d ^^^ a)
  let c := c + d
  let b := turnedRight 24 (b ^^^ c)
  let a := a + b + y
  let d := turnedRight 16 (d ^^^ a)
  let c := c + d
  let b := turnedRight 63 (b ^^^ c)
  (((v.setIfInBounds i a).setIfInBounds j b).setIfInBounds k c).setIfInBounds l d

/-- Mixes a state with a block.  How many bytes there are so far counts, and whether the block is
    the last one. -/
def compress (text : ByteArray) (state : List UInt64) (start count : Nat) (last : Bool) :
    List UInt64 :=
  let words := ((List.range 16).map fun i => lowFirst text (start + 8 * i) 8).toArray
  let roots := squareRoots.take 8
  let behind := roots.zipIdx.map fun (x, i) =>
    if i = 4 then x ^^^ UInt64.ofNat count else if i = 6 && last then ~~~x else x
  let v := (orders ++ orders.take 2).foldl (fun v order =>
    quarters.zipIdx.foldl (fun v (q, i) =>
      mixQuarter v q (words.getD (order.getD (2 * i) 0) 0)
        (words.getD (order.getD (2 * i + 1) 0) 0)) v) (state ++ behind).toArray
  state.zipIdx.map fun (x, i) => x ^^^ v.getD i 0 ^^^ v.getD (i + 8) 0

/-- The digest of some bytes, up to 64. -/
def blake2b (size : Nat) (data : ByteArray) : List UInt8 :=
  let initial := (squareRoots.take 8).zipIdx.map fun (x, i) =>
    if i = 0 then x ^^^ 0x01010000 ^^^ UInt64.ofNat size else x
  let blocks := max 1 ((data.size + 127) / 128)
  let state := (List.range blocks).foldl (fun state i =>
    let last := i + 1 = blocks
    compress data state (128 * i) (if last then data.size else 128 * (i + 1)) last) initial
  (state.flatMap fun word => lowBytes 8 word.toNat).take size

/-! ## Checksums -/

/-- What is left of a byte in front of a division by the polynomial of the cyclic checksum. -/
def cyclicEntry (n : UInt32) : UInt32 :=
  (List.range 8).foldl (fun (x : UInt32) _ =>
    if x >>> 31 = 1 then (x <<< 1) ^^^ 0x04C11DB7 else x <<< 1) (n <<< 24)

/-- What is left of all bytes. -/
def cyclicTable : Array UInt32 :=
  ((List.range 256).map fun n => cyclicEntry (UInt32.ofNat n)).toArray

/-- Adds a byte to a cyclic checksum. -/
def cyclicStep (sum : UInt32) (byte : UInt8) : UInt32 :=
  (sum <<< 8) ^^^ cyclicTable.getD ((sum >>> 24) ^^^ byte.toUInt32).toNat 0

/-- The bytes of a length, the lowest first, as few as are needed. -/
def lengthDigits : Nat → Nat → List UInt8
  | 0, _ => []
  | fuel + 1, n => if n = 0 then [] else UInt8.ofNat (n % 256) :: lengthDigits fuel (n / 256)

/-- The cyclic checksum of bytes and of how many they are. -/
def cyclic (data : ByteArray) : Nat :=
  let sum := data.foldl cyclicStep 0
  (~~~(lengthDigits 16 data.size).foldl cyclicStep sum).toNat

/-- The checksum that is turned by a bit for each byte. -/
def turning (data : ByteArray) : Nat :=
  data.foldl (fun sum byte => ((sum / 2 + sum % 2 * 0x8000) + byte.toNat) % 0x10000) 0

/-- The sum of all bytes, folded to sixteen bits. -/
def folded (data : ByteArray) : Nat :=
  let sum := data.foldl (fun sum byte => (sum + byte.toNat) % Nat.pow 2 32) 0
  let once := sum % 0x10000 + sum / 0x10000
  once % 0x10000 + once / 0x10000

end WasmBinary.Machine.Digest
