namespace UnitLift.Sha256

private def roundConstants : List UInt32 :=
  [0x428a2f98, 0x71374491, 0xb5c0fbcf, 0xe9b5dba5, 0x3956c25b, 0x59f111f1, 0x923f82a4, 0xab1c5ed5,
   0xd807aa98, 0x12835b01, 0x243185be, 0x550c7dc3, 0x72be5d74, 0x80deb1fe, 0x9bdc06a7, 0xc19bf174,
   0xe49b69c1, 0xefbe4786, 0x0fc19dc6, 0x240ca1cc, 0x2de92c6f, 0x4a7484aa, 0x5cb0a9dc, 0x76f988da,
   0x983e5152, 0xa831c66d, 0xb00327c8, 0xbf597fc7, 0xc6e00bf3, 0xd5a79147, 0x06ca6351, 0x14292967,
   0x27b70a85, 0x2e1b2138, 0x4d2c6dfc, 0x53380d13, 0x650a7354, 0x766a0abb, 0x81c2c92e, 0x92722c85,
   0xa2bfe8a1, 0xa81a664b, 0xc24b8b70, 0xc76c51a3, 0xd192e819, 0xd6990624, 0xf40e3585, 0x106aa070,
   0x19a4c116, 0x1e376c08, 0x2748774c, 0x34b0bcb5, 0x391c0cb3, 0x4ed8aa4a, 0x5b9cca4f, 0x682e6ff3,
   0x748f82ee, 0x78a5636f, 0x84c87814, 0x8cc70208, 0x90befffa, 0xa4506ceb, 0xbef9a3f7, 0xc67178f2]

/-- The eight words that a digest is computed in. -/
structure Words where
  a : UInt32
  b : UInt32
  c : UInt32
  d : UInt32
  e : UInt32
  f : UInt32
  g : UInt32
  h : UInt32

/-- The words before the first block. -/
private def initial : Words :=
  ⟨0x6a09e667, 0xbb67ae85, 0x3c6ef372, 0xa54ff53a, 0x510e527f, 0x9b05688c, 0x1f83d9ab, 0x5be0cd19⟩

private def rotateRight (word amount : UInt32) : UInt32 :=
  (word >>> amount) ||| (word <<< (32 - amount))

/-- One round with a round constant and a word of the message schedule. -/
private def round (w : Words) (input : UInt32 × UInt32) : Words :=
  let mixE := rotateRight w.e 6 ^^^ rotateRight w.e 11 ^^^ rotateRight w.e 25
  let choice := (w.e &&& w.f) ^^^ (~~~w.e &&& w.g)
  let first := w.h + mixE + choice + input.1 + input.2
  let mixA := rotateRight w.a 2 ^^^ rotateRight w.a 13 ^^^ rotateRight w.a 22
  let majority := (w.a &&& w.b) ^^^ (w.a &&& w.c) ^^^ (w.b &&& w.c)
  ⟨first + (mixA + majority), w.a, w.b, w.c, w.d + first, w.e, w.f, w.g⟩

private def blockWords : List UInt8 → List UInt32
  | p :: q :: r :: s :: rest =>
    (p.toUInt32 <<< 24 ||| q.toUInt32 <<< 16 ||| r.toUInt32 <<< 8 ||| s.toUInt32) :: blockWords rest
  | _ => []

/-- Extends a message schedule by `count` words. -/
private def extendSchedule : Nat → Array UInt32 → Array UInt32
  | 0, words => words
  | count + 1, words =>
    let back (distance : Nat) := words.getD (words.size - distance) 0
    let low := rotateRight (back 15) 7 ^^^ rotateRight (back 15) 18 ^^^ (back 15 >>> 3)
    let high := rotateRight (back 2) 17 ^^^ rotateRight (back 2) 19 ^^^ (back 2 >>> 10)
    extendSchedule count (words.push (back 16 + low + back 7 + high))

/-- The words after a block of 64 bytes. -/
private def compress (w : Words) (block : List UInt8) : Words :=
  let schedule := extendSchedule 48 (blockWords block).toArray
  let r := (roundConstants.zip schedule.toList).foldl round w
  ⟨w.a + r.a, w.b + r.b, w.c + r.c, w.d + r.d, w.e + r.e, w.f + r.f, w.g + r.g, w.h + r.h⟩

/-- The eight bytes of a number, most significant first. -/
private def bigEndian64 (value : Nat) : List UInt8 :=
  [56, 48, 40, 32, 24, 16, 8, 0].map fun shift => UInt8.ofNat (value >>> shift)

/-- A message followed by a set bit, zeros and its length in bits, in whole blocks. -/
private def padded (message : List UInt8) : List UInt8 :=
  let zeros := (119 - message.length % 64) % 64
  message ++ 0x80 :: List.replicate zeros 0 ++ bigEndian64 (8 * message.length)

/-- The words after `count` blocks of 64 bytes. -/
private def absorb : Nat → Words → List UInt8 → Words
  | 0, w, _ => w
  | count + 1, w, bytes => absorb count (compress w (bytes.take 64)) (bytes.drop 64)

private def wordDigits (word : UInt32) : List Char :=
  [28, 24, 20, 16, 12, 8, 4, 0].map fun shift => Nat.digitChar ((word.toNat >>> shift) % 16)

/-- The digest of `message` as 64 hexadecimal digits. -/
def hexDigest (message : List UInt8) : String :=
  let bytes := padded message
  let w := absorb (bytes.length / 64) initial bytes
  String.ofList ([w.a, w.b, w.c, w.d, w.e, w.f, w.g, w.h].flatMap wordDigits)

def ofText (text : String) : String := hexDigest text.toUTF8.toList

theorem length_ofText (text : String) : (ofText text).length = 64 := by
  simp [ofText, hexDigest, wordDigits]

theorem mem_digits_of_mem_ofText {text : String} {digit : Char}
    (member : digit ∈ (ofText text).toList) : digit ∈ "0123456789abcdef".toList := by
  have known : ∀ value < 16, Nat.digitChar value ∈ "0123456789abcdef".toList := by decide
  rw [ofText, hexDigest, String.toList_ofList] at member
  obtain ⟨word, -, inside⟩ := List.mem_flatMap.mp member
  obtain ⟨shift, -, rfl⟩ := List.mem_map.mp inside
  exact known _ (Nat.mod_lt _ (by decide))

end UnitLift.Sha256
