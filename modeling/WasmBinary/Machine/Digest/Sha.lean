/-
  The secure hash algorithms, and the words and paddings that digests have in common.

  1. **Words** are read from bytes and written as bytes, with the highest or the lowest byte first.

  2. **Padding** — a text is filled up to whole blocks: a bit behind its end, zeros, and how long it
     is, in bits.

  3. **Roots** — the constants of some digests are the first bits behind the point of the roots of
     the first primes.

  4. **Algorithms** — the older one has words of 32 bits and five of them in its state.  The newer
     ones have eight, of 32 or of 64 bits; they differ in how far words are turned, in what they
     start with, and in how much of the last state they give.
-/

namespace WasmBinary.Machine.Digest

/-! ## Words -/

/-- The word that bytes from a position on are, the highest byte first. -/
def highFirst (data : ByteArray) (start count : Nat) : UInt64 :=
  (List.range count).foldl (fun n i => (n <<< 8) ||| ((data[start + i]?).getD 0).toUInt64) 0

/-- The word that bytes from a position on are, the lowest byte first. -/
def lowFirst (data : ByteArray) (start count : Nat) : UInt64 :=
  (List.range count).foldr (fun i n => (n <<< 8) ||| ((data[start + i]?).getD 0).toUInt64) 0

/-- Some bytes of a number, the lowest byte first. -/
def lowBytes (count n : Nat) : List UInt8 :=
  (List.range count).map fun i => UInt8.ofNat (n / Nat.pow 256 i % 256)

/-- Some bytes of a number, the highest byte first. -/
def highBytes (count n : Nat) : List UInt8 := (lowBytes count n).reverse

/-- The low half of a word, turned to the left by some bits. -/
def turned (n : UInt32) (x : UInt32) : UInt32 := (x <<< n) ||| (x >>> (32 - n))

/-! ## Padding -/

/-- A text that is filled up to whole blocks.  Its length takes some bytes at the end. -/
def padded (block lengthBytes : Nat) (high : Bool) (data : ByteArray) : ByteArray :=
  let zeros := (2 * block - 1 - lengthBytes - data.size % block) % block
  let length := (if high then highBytes else lowBytes) lengthBytes (8 * data.size)
  data ++ ⟨#[0x80] ++ Array.replicate zeros 0 ++ length.toArray⟩

/-- What comes of a state by the blocks of a text, one after the other. -/
def overBlocks {σ : Type} (block : Nat) (data : ByteArray) (step : σ → Nat → σ) (initial : σ) : σ :=
  (List.range (data.size / block)).foldl (fun state i => step state (block * i)) initial

/-! ## Roots -/

/-- Whether a number is prime. -/
def isPrime (n : Nat) : Bool :=
  2 ≤ n && (List.range n).all fun d => d < 2 || n % d ≠ 0

/-- The first primes, as far as they are below a bound. -/
def primesBelow (bound : Nat) : List Nat := (List.range bound).filter isPrime

/-- The whole part of a root, which has at most so many bits. -/
def rootOf (degree n : Nat) : Nat → Nat
  | 0 => 0
  | bits + 1 =>
      let doubled := 2 * rootOf degree (n / Nat.pow 2 degree) bits
      if Nat.pow (doubled + 1) degree ≤ n then doubled + 1 else doubled

/-- The first bits behind the point of a root. -/
def rootBits (degree n : Nat) : UInt64 :=
  UInt64.ofNat (rootOf degree (n * Nat.pow 2 (64 * degree)) 72 % Nat.pow 2 64)

/-! ## The older one -/

/-- The state of the older algorithm. -/
structure FiveWords where
  a : UInt32
  b : UInt32
  c : UInt32
  d : UInt32
  e : UInt32

/-- The words that a block becomes for the older algorithm. -/
def schedule1 (data : ByteArray) (start : Nat) : Array UInt32 :=
  let first : Array UInt32 :=
    ((List.range 16).map fun i => (highFirst data (start + 4 * i) 4).toUInt32).toArray
  (List.range 64).foldl (fun (w : Array UInt32) i =>
    let word (k : Nat) : UInt32 := w.getD (i + 16 - k) 0
    w.push (turned 1 (word 3 ^^^ word 8 ^^^ word 14 ^^^ word 16))) first

/-- A round of the older algorithm. -/
def round1 (words : Array UInt32) (s : FiveWords) (i : Nat) : FiveWords :=
  let (f, k) : UInt32 × UInt32 :=
    if i < 20 then ((s.b &&& s.c) ||| (~~~s.b &&& s.d), 0x5A827999)
    else if i < 40 then (s.b ^^^ s.c ^^^ s.d, 0x6ED9EBA1)
    else if i < 60 then ((s.b &&& s.c) ||| (s.b &&& s.d) ||| (s.c &&& s.d), 0x8F1BBCDC)
    else (s.b ^^^ s.c ^^^ s.d, 0xCA62C1D6)
  let next := turned 5 s.a + f + s.e + k + words.getD i 0
  { a := next, b := s.a, c := turned 30 s.b, d := s.c, e := s.d }

/-- The digest of the older algorithm. -/
def sha1 (data : ByteArray) : List UInt8 :=
  let text := padded 64 8 true data
  let step (s : FiveWords) (start : Nat) : FiveWords :=
    let t := (List.range 80).foldl (round1 (schedule1 text start)) s
    { a := s.a + t.a, b := s.b + t.b, c := s.c + t.c, d := s.d + t.d, e := s.e + t.e }
  let s := overBlocks 64 text step
    { a := 0x67452301, b := 0xEFCDAB89, c := 0x98BADCFE, d := 0x10325476, e := 0xC3D2E1F0 }
  [s.a, s.b, s.c, s.d, s.e].flatMap fun word => highBytes 4 word.toNat

/-! ## The newer ones -/

/-- The turns of a word that are added without carry. -/
structure Turns where
  first : UInt64
  second : UInt64
  third : UInt64

/-- How a newer algorithm works. -/
structure Sha2 where
  /-- How many bits a word has. -/
  bits : UInt64
  rounds : Nat
  initial : List UInt64
  constants : Array UInt64
  high : Turns
  low : Turns
  /-- The last one of these is a shift. -/
  early : Turns
  late : Turns

/-- The roots that the newer algorithms use as constants. -/
def cubeRoots : Array UInt64 := ((primesBelow 410).map (rootBits 3)).toArray

/-- The roots that the newer algorithms start with. -/
def squareRoots : List UInt64 := (primesBelow 54).map (rootBits 2)

namespace Sha2

/-- The bits of a word. -/
def narrow (h : Sha2) (x : UInt64) : UInt64 :=
  if h.bits = 64 then x else x &&& 0xFFFFFFFF

/-- A word that is turned to the right. -/
def turn (h : Sha2) (n x : UInt64) : UInt64 := h.narrow ((x >>> n) ||| (x <<< (h.bits - n)))

/-- The turns of a word together. -/
def turns (h : Sha2) (t : Turns) (x : UInt64) : UInt64 :=
  h.turn t.first x ^^^ h.turn t.second x ^^^ h.turn t.third x

/-- The turns of a word together with a shift. -/
def mixes (h : Sha2) (t : Turns) (x : UInt64) : UInt64 :=
  h.turn t.first x ^^^ h.turn t.second x ^^^ (x >>> t.third)

/-- The words that a block becomes. -/
def schedule (h : Sha2) (data : ByteArray) (start : Nat) : Array UInt64 :=
  let size := h.bits.toNat / 8
  let first := ((List.range 16).map fun i => highFirst data (start + size * i) size).toArray
  (List.range (h.rounds - 16)).foldl (fun (w : Array UInt64) i =>
    let word (k : Nat) : UInt64 := w.getD (i + 16 - k) 0
    w.push (h.narrow (word 16 + h.mixes h.early (word 15) + word 7 + h.mixes h.late (word 2))))
    first

/-- A round. -/
def round (h : Sha2) (words : Array UInt64) (state : List UInt64) (i : Nat) : List UInt64 :=
  match state with
  | [a, b, c, d, e, f, g, z] =>
      let t := z + h.turns h.high e + ((e &&& f) ^^^ (~~~e &&& g)) + h.constants.getD i 0 +
        words.getD i 0
      let u := h.turns h.low a + ((a &&& b) ^^^ (a &&& c) ^^^ (b &&& c))
      [h.narrow (t + u), a, b, c, h.narrow (d + t), e, f, g]
  | other => other

/-- The last state for a text, as bytes. -/
def run (h : Sha2) (data : ByteArray) : List UInt8 :=
  let size := h.bits.toNat / 8
  let block := 16 * size
  let text := padded block (2 * size) true data
  let step (state : List UInt64) (start : Nat) : List UInt64 :=
    let after := (List.range h.rounds).foldl (h.round (h.schedule text start)) state
    List.zipWith (fun x y => h.narrow (x + y)) state after
  (overBlocks block text step h.initial).flatMap fun word => highBytes size word.toNat

/-- The algorithm with narrow words. -/
def narrowWords (initial : List UInt64) : Sha2 where
  bits := 32
  rounds := 64
  initial := initial
  constants := cubeRoots.map fun (x : UInt64) => x >>> (32 : UInt64)
  high := ⟨6, 11, 25⟩
  low := ⟨2, 13, 22⟩
  early := ⟨7, 18, 3⟩
  late := ⟨17, 19, 10⟩

/-- The algorithm with wide words. -/
def wideWords (initial : List UInt64) : Sha2 where
  bits := 64
  rounds := 80
  initial := initial
  constants := cubeRoots
  high := ⟨14, 18, 41⟩
  low := ⟨28, 34, 39⟩
  early := ⟨1, 8, 7⟩
  late := ⟨19, 61, 6⟩

end Sha2

/-- The digest of 224 bits. -/
def sha224 (data : ByteArray) : List UInt8 :=
  let roots := (squareRoots.drop 8).map fun (x : UInt64) => x &&& (0xFFFFFFFF : UInt64)
  ((Sha2.narrowWords roots).run data).take 28

/-- The digest of 256 bits. -/
def sha256 (data : ByteArray) : List UInt8 :=
  (Sha2.narrowWords ((squareRoots.take 8).map fun (x : UInt64) => x >>> (32 : UInt64))).run data

/-- The digest of 384 bits. -/
def sha384 (data : ByteArray) : List UInt8 :=
  ((Sha2.wideWords (squareRoots.drop 8)).run data).take 48

/-- The digest of 512 bits. -/
def sha512 (data : ByteArray) : List UInt8 := (Sha2.wideWords (squareRoots.take 8)).run data

end WasmBinary.Machine.Digest
