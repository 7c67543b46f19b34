import SiteTemplates.Number.Power

/-!
# The digest of bytes

The secure hash of 256 bits.  The message is filled up to whole blocks of sixteen words of 32 bits,
and every block is mixed into a state of eight words in 64 rounds.  A round takes the first word of
a window of sixteen words, which then moves on by one.
-/

namespace SiteTemplates.Digest

def roundWords : List UInt32 :=
  [0x428a2f98, 0x71374491, 0xb5c0fbcf, 0xe9b5dba5, 0x3956c25b, 0x59f111f1, 0x923f82a4, 0xab1c5ed5,
    0xd807aa98, 0x12835b01, 0x243185be, 0x550c7dc3, 0x72be5d74, 0x80deb1fe, 0x9bdc06a7, 0xc19bf174,
    0xe49b69c1, 0xefbe4786, 0x0fc19dc6, 0x240ca1cc, 0x2de92c6f, 0x4a7484aa, 0x5cb0a9dc, 0x76f988da,
    0x983e5152, 0xa831c66d, 0xb00327c8, 0xbf597fc7, 0xc6e00bf3, 0xd5a79147, 0x06ca6351, 0x14292967,
    0x27b70a85, 0x2e1b2138, 0x4d2c6dfc, 0x53380d13, 0x650a7354, 0x766a0abb, 0x81c2c92e, 0x92722c85,
    0xa2bfe8a1, 0xa81a664b, 0xc24b8b70, 0xc76c51a3, 0xd192e819, 0xd6990624, 0xf40e3585, 0x106aa070,
    0x19a4c116, 0x1e376c08, 0x2748774c, 0x34b0bcb5, 0x391c0cb3, 0x4ed8aa4a, 0x5b9cca4f, 0x682e6ff3,
    0x748f82ee, 0x78a5636f, 0x84c87814, 0x8cc70208, 0x90befffa, 0xa4506ceb, 0xbef9a3f7, 0xc67178f2]

/-- The words of the state, from the first to the last. -/
structure State where
  a : UInt32
  b : UInt32
  c : UInt32
  d : UInt32
  e : UInt32
  f : UInt32
  g : UInt32
  h : UInt32
deriving DecidableEq, Repr

def initial : State where
  a := 0x6a09e667
  b := 0xbb67ae85
  c := 0x3c6ef372
  d := 0xa54ff53a
  e := 0x510e527f
  f := 0x9b05688c
  g := 0x1f83d9ab
  h := 0x5be0cd19

def turn (x : UInt32) (n : UInt32) : UInt32 := (x >>> n) ||| (x <<< (32 - n))

/-- The words of big-endian bytes, after those in `done` (last first). -/
def wordsFrom (done : List UInt32) : List UInt8 → List UInt32
  | a :: b :: c :: d :: rest =>
    let high := (a.toUInt32 <<< 24) ||| (b.toUInt32 <<< 16)
    let low := (c.toUInt32 <<< 8) ||| d.toUInt32
    wordsFrom ((high ||| low) :: done) rest
  | _ => done.reverse

def bigEndian (count n : Nat) : List UInt8 :=
  ((List.range count).map (fun i => UInt8.ofNat (n / twoTo (8 * i)))).reverse

/-- The message filled up to whole blocks: a bit, zeros, and the number of bits in eight bytes. -/
def filled (message : List UInt8) : List UInt8 :=
  let zeros := (119 - message.length % 64) % 64
  message ++ 0x80 :: (List.replicate zeros 0 ++ bigEndian 8 (8 * message.length))

/-- The window after the word `w` is taken: the fifteen words after it and one that is made of the
words in the window. -/
def moveOn (w : UInt32) (rest : List UInt32) : List UInt32 :=
  let x := rest.getD 0 0
  let y := rest.getD 13 0
  let s0 := turn x 7 ^^^ turn x 18 ^^^ (x >>> 3)
  let s1 := turn y 17 ^^^ turn y 19 ^^^ (y >>> 10)
  rest ++ [w + s0 + rest.getD 8 0 + s1]

def State.mix (s : State) (word roundWord : UInt32) : State :=
  let s1 := turn s.e 6 ^^^ turn s.e 11 ^^^ turn s.e 25
  let choice := (s.e &&& s.f) ^^^ (~~~s.e &&& s.g)
  let t1 := s.h + s1 + choice + roundWord + word
  let s0 := turn s.a 2 ^^^ turn s.a 13 ^^^ turn s.a 22
  let majority := (s.a &&& s.b) ^^^ (s.a &&& s.c) ^^^ (s.b &&& s.c)
  ⟨t1 + s0 + majority, s.a, s.b, s.c, s.d + t1, s.e, s.f, s.g⟩

/-- The rounds of a block, one for each of the words that they add. -/
def rounds (s : State) (window : List UInt32) : List UInt32 → State
  | [] => s
  | k :: ks =>
    match window with
    | [] => s
    | w :: rest => rounds (s.mix w k) (moveOn w rest) ks

def State.absorb (s : State) (block : List UInt32) : State :=
  let t := rounds s block roundWords
  ⟨s.a + t.a, s.b + t.b, s.c + t.c, s.d + t.d, s.e + t.e, s.f + t.f, s.g + t.g, s.h + t.h⟩

def absorbAll (s : State) (words : List UInt32) : State :=
  match words with
  | [] => s
  | w :: rest => absorbAll (s.absorb (w :: rest.take 15)) (rest.drop 15)
termination_by words.length
decreasing_by simp only [List.length_drop, List.length_cons]; omega

def ofBytes (message : List UInt8) : List UInt8 :=
  let s := absorbAll initial (wordsFrom [] (filled message))
  [s.a, s.b, s.c, s.d, s.e, s.f, s.g, s.h].flatMap (fun w => bigEndian 4 w.toNat)

end SiteTemplates.Digest
