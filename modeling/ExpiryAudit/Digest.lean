/-!
# SHA-256

The digest of a sequence of bytes. The bytes are padded to whole blocks, and each
block is mixed into eight words of state.
-/
namespace ExpiryAudit.Digest

/-- The first words of the fractional parts of the cube roots of the first
primes. -/
def roundConstants : List UInt32 :=
  [0x428a2f98, 0x71374491, 0xb5c0fbcf, 0xe9b5dba5, 0x3956c25b, 0x59f111f1, 0x923f82a4, 0xab1c5ed5,
    0xd807aa98, 0x12835b01, 0x243185be, 0x550c7dc3, 0x72be5d74, 0x80deb1fe, 0x9bdc06a7, 0xc19bf174,
    0xe49b69c1, 0xefbe4786, 0x0fc19dc6, 0x240ca1cc, 0x2de92c6f, 0x4a7484aa, 0x5cb0a9dc, 0x76f988da,
    0x983e5152, 0xa831c66d, 0xb00327c8, 0xbf597fc7, 0xc6e00bf3, 0xd5a79147, 0x06ca6351, 0x14292967,
    0x27b70a85, 0x2e1b2138, 0x4d2c6dfc, 0x53380d13, 0x650a7354, 0x766a0abb, 0x81c2c92e, 0x92722c85,
    0xa2bfe8a1, 0xa81a664b, 0xc24b8b70, 0xc76c51a3, 0xd192e819, 0xd6990624, 0xf40e3585, 0x106aa070,
    0x19a4c116, 0x1e376c08, 0x2748774c, 0x34b0bcb5, 0x391c0cb3, 0x4ed8aa4a, 0x5b9cca4f, 0x682e6ff3,
    0x748f82ee, 0x78a5636f, 0x84c87814, 0x8cc70208, 0x90befffa, 0xa4506ceb, 0xbef9a3f7, 0xc67178f2]

structure State where
  a : UInt32
  b : UInt32
  c : UInt32
  d : UInt32
  e : UInt32
  f : UInt32
  g : UInt32
  h : UInt32

namespace State

/-- The first words of the fractional parts of the square roots of the first
primes. -/
def initial : State :=
  ⟨0x6a09e667, 0xbb67ae85, 0x3c6ef372, 0xa54ff53a, 0x510e527f, 0x9b05688c, 0x1f83d9ab, 0x5be0cd19⟩

def add (s t : State) : State :=
  ⟨s.a + t.a, s.b + t.b, s.c + t.c, s.d + t.d, s.e + t.e, s.f + t.f, s.g + t.g, s.h + t.h⟩

def words (s : State) : List UInt32 := [s.a, s.b, s.c, s.d, s.e, s.f, s.g, s.h]

end State

def rotate (x : UInt32) (n : UInt32) : UInt32 := (x >>> n) ||| (x <<< (32 - n))

/-- One round with a word of the schedule and a constant. -/
def round (s : State) (word constant : UInt32) : State :=
  let mixed := rotate s.e 6 ^^^ rotate s.e 11 ^^^ rotate s.e 25
  let choice := (s.e &&& s.f) ^^^ (~~~s.e &&& s.g)
  let first := s.h + mixed + choice + constant + word
  let spread := rotate s.a 2 ^^^ rotate s.a 13 ^^^ rotate s.a 22
  let majority := (s.a &&& s.b) ^^^ (s.a &&& s.c) ^^^ (s.b &&& s.c)
  ⟨first + (spread + majority), s.a, s.b, s.c, s.d + first, s.e, s.f, s.g⟩

/-- One more word of the schedule from the words before it. -/
def nextWord (schedule : Array UInt32) : UInt32 :=
  let n := schedule.size
  let near := schedule[n - 2]?.getD 0
  let far := schedule[n - 15]?.getD 0
  schedule[n - 16]?.getD 0 + (rotate far 7 ^^^ rotate far 18 ^^^ (far >>> 3)) +
    schedule[n - 7]?.getD 0 + (rotate near 17 ^^^ rotate near 19 ^^^ (near >>> 10))

/-- The sixty-four words of a block of sixteen. -/
def schedule (block : List UInt32) : Array UInt32 :=
  (List.range 48).foldl (fun words _ => words.push (nextWord words)) block.toArray

def compress (s : State) (block : List UInt32) : State :=
  s.add (((schedule block).toList.zip roundConstants).foldl (fun s w => round s w.1 w.2) s)

/-- The bytes with a one bit, zeros, and the length in bits, in whole blocks. -/
def pad (bytes : List UInt8) : List UInt8 :=
  let bits := 8 * bytes.length
  let zeros := (119 - bytes.length % 64) % 64
  bytes ++ 0x80 :: List.replicate zeros 0 ++
    (List.range 8).map fun i => UInt8.ofNat (bits / Nat.pow 256 (7 - i) % 256)

/-- Collects bytes to words; the words done are in reverse. -/
def wordsOnto (done : List UInt32) : List UInt8 → List UInt32
  | a :: b :: c :: d :: rest =>
    let word := (a.toUInt32 <<< 24) ||| (b.toUInt32 <<< 16) ||| (c.toUInt32 <<< 8) ||| d.toUInt32
    wordsOnto (word :: done) rest
  | _ => done.reverse

/-- Mixes the blocks of a sequence of words into a state. -/
def absorb (s : State) (blocks : Nat) (words : List UInt32) : State :=
  match blocks with
  | 0 => s
  | blocks + 1 => absorb (compress s (words.take 16)) blocks (words.drop 16)

def hexByte (n : Nat) : List Char := [Nat.digitChar (n / 16), Nat.digitChar (n % 16)]

def hexWord (w : UInt32) : List Char :=
  [24, 16, 8, 0].flatMap fun shift => hexByte (w.toNat / Nat.pow 2 shift % 256)

/-- The digest in lower case hexadecimal digits. -/
def hexadecimal (bytes : List UInt8) : String :=
  let words := wordsOnto [] (pad bytes)
  String.ofList ((absorb .initial (words.length / 16) words).words.flatMap hexWord)

/-- The digest of a text in UTF-8. -/
def ofText (s : String) : String := hexadecimal s.toUTF8.toList

end ExpiryAudit.Digest
