import LogDiagram.Bytes.Utf8

/-!
# Digests

Numbers of a fixed size that are calculated from bytes. A digest takes its bytes in blocks, the last one filled up with
a bit, zeros and the number of all bits, and mixes each block into a state of words.

* `Digest.md5`, `Digest.sha1` and `Digest.sha2` give the bytes of a digest;
* `Digest.cyclic` is the remainder of a division of polynomials.
-/

namespace LogDiagram.Digest

/-! ## Words -/

/-- The number that bytes write, the greatest place first. -/
def ofBytes (bytes : Bytes) : Nat := bytes.foldl (fun n b => n * 256 + b.toNat) 0

/-- The bytes of a number, the greatest place first. -/
def toBytes (size n : Nat) : Bytes := (List.range size).reverse.map fun i => UInt8.ofNat (n >>> (8 * i))

/-- The parts of a list of bytes of one size; `fuel` bounds them. -/
def parts (size : Nat) : (fuel : Nat) → Bytes → List Bytes
  | 0, _ => []
  | _, [] => []
  | fuel + 1, bytes => bytes.take size :: parts size fuel (bytes.drop size)

/-- The blocks of bytes, filled up; `writeSize` writes the number of bits. -/
def blocks (blockSize sizeSize : Nat) (writeSize : Nat → Bytes) (bytes : Bytes) : List Bytes :=
  let used := (bytes.length + 1 + sizeSize) % blockSize
  let zeros := if used = 0 then 0 else blockSize - used
  let whole := bytes ++ 0x80 :: (List.replicate zeros 0 ++ writeSize (8 * bytes.length))
  parts blockSize (whole.length + 1) whole

/-! ## Words of 32 bits -/

def turned (x : UInt32) (n : Nat) : UInt32 := (x <<< UInt32.ofNat n) ||| (x >>> UInt32.ofNat (32 - n))

/-- The bytes of a number, the least place first. -/
def toBytesBack (size n : Nat) : Bytes := (toBytes size n).reverse

/-- The constants of the steps of the first digest: the sines of whole numbers. -/
def sines : Array UInt32 := #[
  0xd76aa478, 0xe8c7b756, 0x242070db, 0xc1bdceee, 0xf57c0faf, 0x4787c62a, 0xa8304613, 0xfd469501,
  0x698098d8, 0x8b44f7af, 0xffff5bb1, 0x895cd7be, 0x6b901122, 0xfd987193, 0xa679438e, 0x49b40821,
  0xf61e2562, 0xc040b340, 0x265e5a51, 0xe9b6c7aa, 0xd62f105d, 0x02441453, 0xd8a1e681, 0xe7d3fbc8,
  0x21e1cde6, 0xc33707d6, 0xf4d50d87, 0x455a14ed, 0xa9e3e905, 0xfcefa3f8, 0x676f02d9, 0x8d2a4c8a,
  0xfffa3942, 0x8771f681, 0x6d9d6122, 0xfde5380c, 0xa4beea44, 0x4bdecfa9, 0xf6bb4b60, 0xbebfbc70,
  0x289b7ec6, 0xeaa127fa, 0xd4ef3085, 0x04881d05, 0xd9d4d039, 0xe6db99e5, 0x1fa27cf8, 0xc4ac5665,
  0xf4292244, 0x432aff97, 0xab9423a7, 0xfc93a039, 0x655b59c3, 0x8f0ccc92, 0xffeff47d, 0x85845dd1,
  0x6fa87e4f, 0xfe2ce6e0, 0xa3014314, 0x4e0811a1, 0xf7537e82, 0xbd3af235, 0x2ad7d2bb, 0xeb86d391]

/-- How far words are turned in the steps of the first digest; each round has four numbers that are used in turn. -/
def turns : Array Nat := #[7, 12, 17, 22, 5, 9, 14, 20, 4, 11, 16, 23, 6, 10, 15, 21]

def mixMd5 (state : UInt32 × UInt32 × UInt32 × UInt32) (block : Bytes) : UInt32 × UInt32 × UInt32 × UInt32 :=
  let words := ((parts 4 16 block).map fun part => UInt32.ofNat (ofBytes part.reverse)).toArray
  let (a₀, b₀, c₀, d₀) := state
  let (a, b, c, d) := (List.range 64).foldl (fun ((a, b, c, d) : UInt32 × UInt32 × UInt32 × UInt32) i =>
    let (mixed, place) : UInt32 × Nat :=
      if i < 16 then ((b &&& c) ||| (~~~b &&& d), i)
      else if i < 32 then ((d &&& b) ||| (~~~d &&& c), (5 * i + 1) % 16)
      else if i < 48 then (b ^^^ c ^^^ d, (3 * i + 5) % 16)
      else (c ^^^ (b ||| ~~~d), 7 * i % 16)
    let sum := a + mixed + sines.getD i 0 + words.getD place 0
    (d, b + turned sum (turns.getD (i / 16 * 4 + i % 4) 0), b, c)) state
  (a₀ + a, b₀ + b, c₀ + c, d₀ + d)

def md5 (bytes : Bytes) : Bytes :=
  let (a, b, c, d) := (blocks 64 8 (toBytesBack 8) bytes).foldl mixMd5 (0x67452301, 0xefcdab89, 0x98badcfe, 0x10325476)
  [a, b, c, d].flatMap fun word => toBytesBack 4 word.toNat

/-- The words of a block, continued by words that are calculated from those before. -/
def schedule {α : Type} (extend : Array α → Nat → α) (count : Nat) (words : Array α) : Array α :=
  (List.range (count - words.size)).foldl (fun words _ => words.push (extend words words.size)) words

def mixSha1 (state : List UInt32) (block : Bytes) : List UInt32 :=
  let words := ((parts 4 16 block).map fun part => UInt32.ofNat (ofBytes part)).toArray
  let words := schedule (fun words i =>
    let at_ (back : Nat) : UInt32 := words.getD (i - back) 0
    turned (at_ 3 ^^^ at_ 8 ^^^ at_ 14 ^^^ at_ 16) 1) 80 words
  let after := (List.range 80).foldl (fun state i =>
    match state with
    | [a, b, c, d, e] =>
      let (mixed, constant) : UInt32 × UInt32 :=
        if i < 20 then ((b &&& c) ||| (~~~b &&& d), 0x5a827999)
        else if i < 40 then (b ^^^ c ^^^ d, 0x6ed9eba1)
        else if i < 60 then ((b &&& c) ||| (b &&& d) ||| (c &&& d), 0x8f1bbcdc)
        else (b ^^^ c ^^^ d, 0xca62c1d6)
      [turned a 5 + mixed + e + constant + words.getD i 0, a, turned b 30, c, d]
    | state => state) state
  List.zipWith (· + ·) state after

def sha1 (bytes : Bytes) : Bytes :=
  ((blocks 64 8 (toBytes 8) bytes).foldl mixSha1 [0x67452301, 0xefcdab89, 0x98badcfe, 0x10325476, 0xc3d2e1f0]).flatMap
    fun word => toBytes 4 word.toNat

/-! ## Words of any size -/

structure Kind where
  /-- How many bits a word has. -/
  bits : Nat
  rounds : Nat
  /-- How many bytes the digest has. -/
  size : Nat
  /-- How many primes are left out in front of those whose roots start the state. -/
  skipped : Nat
  /-- How far words are turned: four triples, of which the last number is a shift in the second half. -/
  turns : List (Nat × Nat × Nat)

def sha224 : Kind := ⟨32, 64, 28, 8, [(2, 13, 22), (6, 11, 25), (7, 18, 3), (17, 19, 10)]⟩

def sha256 : Kind := { sha224 with size := 32, skipped := 0 }

def sha384 : Kind := ⟨64, 80, 48, 8, [(28, 34, 39), (14, 18, 41), (1, 8, 7), (19, 61, 6)]⟩

def sha512 : Kind := { sha384 with size := 64, skipped := 0 }

/-- The greatest number whose power is not above a bound; `bits` places are searched. -/
def root (power : Nat) (bound : Nat) : (bits : Nat) → (found : Nat) → Nat
  | 0, found => found
  | bits + 1, found =>
    let next := found + Nat.pow 2 bits
    root power bound bits (if Nat.pow next power ≤ bound then next else found)

def rootBits (power bits n : Nat) : Nat :=
  root power (n * Nat.pow 2 (power * bits)) (bits + 6) 0 % Nat.pow 2 bits

def primes (count : Nat) : List Nat :=
  ((List.range 420).drop 2 |>.filter fun n => (List.range n).all fun d => d < 2 || n % d != 0).take count

namespace Kind

def turned (kind : Kind) (n x : Nat) : Nat := (x >>> n) ||| ((x <<< (kind.bits - n)) % Nat.pow 2 kind.bits)

/-- A word turned in three ways; the last one may be a shift. -/
def mixed (kind : Kind) (index : Nat) (isShift : Bool) (x : Nat) : Nat :=
  let (a, b, c) := kind.turns.getD index (0, 0, 0)
  kind.turned a x ^^^ kind.turned b x ^^^ (if isShift then x >>> c else kind.turned c x)

def mix (kind : Kind) (constants : Array Nat) (state : List Nat) (block : Bytes) : List Nat :=
  let modulus := Nat.pow 2 kind.bits
  let words := ((parts (kind.bits / 8) 16 block).map ofBytes).toArray
  let words := schedule (fun words i =>
    let at_ (back : Nat) : Nat := words.getD (i - back) 0
    (at_ 16 + kind.mixed 2 true (at_ 15) + at_ 7 + kind.mixed 3 true (at_ 2)) % modulus) kind.rounds words
  let after := (List.range kind.rounds).foldl (fun state i =>
    match state with
    | [a, b, c, d, e, f, g, h] =>
      let choice := (e &&& f) ^^^ ((modulus - 1 - e) &&& g)
      let majority := (a &&& b) ^^^ (a &&& c) ^^^ (b &&& c)
      let first := h + kind.mixed 1 false e + choice + constants.getD i 0 + words.getD i 0
      let second := kind.mixed 0 false a + majority
      [(first + second) % modulus, a, b, c, (d + first) % modulus, e, f, g]
    | state => state) state
  List.zipWith (fun a b => (a + b) % modulus) state after

end Kind

def sha2 (kind : Kind) (bytes : Bytes) : Bytes :=
  let constants := ((primes kind.rounds).map (rootBits 3 kind.bits)).toArray
  -- What starts with later primes takes the last ones of 64 bits.
  let start := ((primes 16).drop kind.skipped |>.take 8).map fun n =>
    if kind.skipped = 0 then rootBits 2 kind.bits n else rootBits 2 64 n % Nat.pow 2 kind.bits
  let state := (blocks (2 * kind.bits) (kind.bits / 4) (toBytes (kind.bits / 4)) bytes).foldl (kind.mix constants) start
  (state.flatMap (toBytes (kind.bits / 8))).take kind.size

/-! ## Remainders -/

def stepCyclic (remainder : UInt32) (byte : UInt8) : UInt32 :=
  (List.range 8).foldl (fun r _ =>
    if r &&& 0x80000000 = 0 then r <<< 1 else (r <<< 1) ^^^ 0x04c11db7) (remainder ^^^ (byte.toUInt32 <<< 24))

/-- The bytes of the number of bytes, the least place first; `fuel` bounds them. -/
def lengthBytes : (fuel : Nat) → Nat → Bytes
  | 0, _ => []
  | fuel + 1, n => if n = 0 then [] else UInt8.ofNat n :: lengthBytes fuel (n / 256)

def cyclic (bytes : Bytes) : Nat :=
  (~~~((bytes ++ lengthBytes 16 bytes.length).foldl stepCyclic 0)).toNat

def turningSum (bytes : Bytes) : Nat :=
  bytes.foldl (fun sum b => (sum / 2 + sum % 2 * 32768 + b.toNat) % 65536) 0

end LogDiagram.Digest
