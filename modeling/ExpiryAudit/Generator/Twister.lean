/-!
# The Mersenne Twister

A generator of 32-bit words with 624 words of state. The state is seeded from the
words of a number of any size.
-/
namespace ExpiryAudit

structure Twister where
  words : Array UInt32
  /-- The place of the next word. -/
  next : Nat

namespace Twister

def size : Nat := 624

def word (words : Array UInt32) (i : Nat) : UInt32 := words[i]?.getD 0

/-- The state of a seed of one word. -/
def initial (seed : UInt32) : Array UInt32 :=
  (List.range (size - 1)).foldl
    (fun words i =>
      let last := word words i
      words.push ((last ^^^ (last >>> 30)) * 1812433253 + UInt32.ofNat (i + 1)))
    #[seed]

/-- Copies the last word to the front when a place is past the end. -/
def wrap (words : Array UInt32) (i : Nat) : Array UInt32 × Nat :=
  if size ≤ i then (words.setIfInBounds 0 (word words (size - 1)), 1) else (words, i)

/-- A step of mixing: a word with the word before it, by a multiplier. -/
def mixed (words : Array UInt32) (i : Nat) (multiplier : UInt32) : UInt32 :=
  let last := word words (i - 1)
  word words i ^^^ ((last ^^^ (last >>> 30)) * multiplier)

/-- Mixes the words of a key into the state. -/
def mixKey (key : Array UInt32) (words : Array UInt32) : Array UInt32 × Nat :=
  let (words, i, _) := (List.range (max size key.size)).foldl
    (fun (words, i, j) _ =>
      let words := words.setIfInBounds i (mixed words i 1664525 + word key j + UInt32.ofNat j)
      let (words, i) := wrap words (i + 1)
      (words, i, if key.size ≤ j + 1 then 0 else j + 1))
    (words, 1, 0)
  (words, i)

/-- Mixes the state with itself, from a place on. -/
def mixPlaces (words : Array UInt32) (i : Nat) : Array UInt32 :=
  let (words, _) := (List.range (size - 1)).foldl
    (fun (words, i) _ =>
      wrap (words.setIfInBounds i (mixed words i 1566083941 - UInt32.ofNat i)) (i + 1))
    (words, i)
  words.setIfInBounds 0 0x80000000

/-- The words of a number, the low ones first; `fuel` bounds their count. -/
def wordsOf (fuel n : Nat) : List UInt32 :=
  match fuel with
  | 0 => []
  | fuel + 1 => if n < Nat.pow 2 32 then [UInt32.ofNat n] else
    UInt32.ofNat (n % Nat.pow 2 32) :: wordsOf fuel (n / Nat.pow 2 32)

/-- The generator of a seed. The sign of the seed does not matter. -/
def ofSeed (seed : Int) : Twister :=
  let key := (wordsOf (seed.natAbs.log2 + 1) seed.natAbs).toArray
  let (words, i) := mixKey key (initial 19650218)
  ⟨mixPlaces words i, size⟩

/-- All words of the state replaced by the next ones. -/
def refill (words : Array UInt32) : Array UInt32 :=
  (List.range size).foldl
    (fun words i =>
      let joined := (word words i &&& 0x80000000) |||
        (word words ((i + 1) % size) &&& 0x7fffffff)
      let odd : UInt32 := if joined &&& 1 = 0 then 0 else 0x9908b0df
      words.setIfInBounds i (word words ((i + 397) % size) ^^^ (joined >>> 1) ^^^ odd))
    words

def temper (y : UInt32) : UInt32 :=
  let y := y ^^^ (y >>> 11)
  let y := y ^^^ ((y <<< 7) &&& 0x9d2c5680)
  let y := y ^^^ ((y <<< 15) &&& 0xefc60000)
  y ^^^ (y >>> 18)

/-- The next word. -/
def draw (t : Twister) : UInt32 × Twister :=
  let t := if size ≤ t.next then ⟨refill t.words, 0⟩ else t
  (temper (word t.words t.next), { t with next := t.next + 1 })

/-- Draws the upper bits of words until they are below a bound. The draws are
limited, and zero stands in when all of them miss. -/
def drawBelow (tries bound shift : Nat) (t : Twister) : Nat × Twister :=
  match tries with
  | 0 => (0, t)
  | tries + 1 =>
    let (w, t) := t.draw
    let r := w.toNat / Nat.pow 2 shift
    if r < bound then (r, t) else drawBelow tries bound shift t

/-- A number below a positive bound. -/
def below (bound : Nat) (t : Twister) : Nat × Twister :=
  drawBelow 10000 bound (32 - (bound.log2 + 1)) t

theorem drawBelow_lt {bound : Nat} (h : 0 < bound) (tries shift : Nat) (t : Twister) :
    (drawBelow tries bound shift t).1 < bound := by
  induction tries generalizing t with
  | zero => exact h
  | succ tries ih =>
    simp only [drawBelow]
    split
    · assumption
    · exact ih _

end Twister
end ExpiryAudit
