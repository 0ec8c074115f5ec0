/-!
# SHA-256

The 256-bit digest of a byte string: the message is padded to blocks of 64 bytes, and each block
is folded into eight words by sixty-four rounds.
-/

namespace Provision
namespace Digest

def roundConstants : Array UInt32 :=
  #[0x428a2f98, 0x71374491, 0xb5c0fbcf, 0xe9b5dba5, 0x3956c25b, 0x59f111f1, 0x923f82a4,
    0xab1c5ed5, 0xd807aa98, 0x12835b01, 0x243185be, 0x550c7dc3, 0x72be5d74, 0x80deb1fe,
    0x9bdc06a7, 0xc19bf174, 0xe49b69c1, 0xefbe4786, 0x0fc19dc6, 0x240ca1cc, 0x2de92c6f,
    0x4a7484aa, 0x5cb0a9dc, 0x76f988da, 0x983e5152, 0xa831c66d, 0xb00327c8, 0xbf597fc7,
    0xc6e00bf3, 0xd5a79147, 0x06ca6351, 0x14292967, 0x27b70a85, 0x2e1b2138, 0x4d2c6dfc,
    0x53380d13, 0x650a7354, 0x766a0abb, 0x81c2c92e, 0x92722c85, 0xa2bfe8a1, 0xa81a664b,
    0xc24b8b70, 0xc76c51a3, 0xd192e819, 0xd6990624, 0xf40e3585, 0x106aa070, 0x19a4c116,
    0x1e376c08, 0x2748774c, 0x34b0bcb5, 0x391c0cb3, 0x4ed8aa4a, 0x5b9cca4f, 0x682e6ff3,
    0x748f82ee, 0x78a5636f, 0x84c87814, 0x8cc70208, 0x90befffa, 0xa4506ceb, 0xbef9a3f7,
    0xc67178f2]

/-- The eight words that a message is folded into. -/
structure Words where
  a : UInt32
  b : UInt32
  c : UInt32
  d : UInt32
  e : UInt32
  f : UInt32
  g : UInt32
  h : UInt32

namespace Words

def initial : Words :=
  ⟨0x6a09e667, 0xbb67ae85, 0x3c6ef372, 0xa54ff53a, 0x510e527f, 0x9b05688c, 0x1f83d9ab,
    0x5be0cd19⟩

def add (v w : Words) : Words :=
  ⟨v.a + w.a, v.b + w.b, v.c + w.c, v.d + w.d, v.e + w.e, v.f + w.f, v.g + w.g, v.h + w.h⟩

def toList (w : Words) : List UInt32 :=
  [w.a, w.b, w.c, w.d, w.e, w.f, w.g, w.h]

end Words

def rotateRight (x : UInt32) (n : UInt32) : UInt32 :=
  (x >>> n) ||| (x <<< (32 - n))

def wordOfBytes (b0 b1 b2 b3 : UInt8) : UInt32 :=
  (b0.toUInt32 <<< 24) ||| (b1.toUInt32 <<< 16) ||| (b2.toUInt32 <<< 8) ||| b3.toUInt32

def wordsOfBytes : List UInt8 → List UInt32
  | b0 :: b1 :: b2 :: b3 :: rest => wordOfBytes b0 b1 b2 b3 :: wordsOfBytes rest
  | _ => []

def bytesOfWord (w : UInt32) : List UInt8 :=
  [(w >>> 24).toUInt8, (w >>> 16).toUInt8, (w >>> 8).toUInt8, w.toUInt8]

def bytesOfLength (n : Nat) : List UInt8 :=
  [56, 48, 40, 32, 24, 16, 8, 0].map (fun shift => UInt8.ofNat (n >>> shift))

/-- The message, one set bit, zeros, and the length in bits, in whole blocks. -/
def padded (bytes : List UInt8) : List UInt8 :=
  let zeros := (119 - bytes.length % 64) % 64
  bytes ++ 0x80 :: List.replicate zeros 0 ++ bytesOfLength (8 * bytes.length)

/-- Extends the words of a block by one word per step. -/
def extend : Nat → Array UInt32 → Array UInt32
  | 0, schedule => schedule
  | steps + 1, schedule =>
      let t := schedule.size
      let w15 := schedule.getD (t - 15) 0
      let w2 := schedule.getD (t - 2) 0
      let s0 := rotateRight w15 7 ^^^ rotateRight w15 18 ^^^ (w15 >>> 3)
      let s1 := rotateRight w2 17 ^^^ rotateRight w2 19 ^^^ (w2 >>> 10)
      let next := schedule.getD (t - 16) 0 + s0 + schedule.getD (t - 7) 0 + s1
      extend steps (schedule.push next)

def roundStep (w : Words) (constant word : UInt32) : Words :=
  let s1 := rotateRight w.e 6 ^^^ rotateRight w.e 11 ^^^ rotateRight w.e 25
  let choice := (w.e &&& w.f) ^^^ ((~~~ w.e) &&& w.g)
  let t1 := w.h + s1 + choice + constant + word
  let s0 := rotateRight w.a 2 ^^^ rotateRight w.a 13 ^^^ rotateRight w.a 22
  let majority := (w.a &&& w.b) ^^^ (w.a &&& w.c) ^^^ (w.b &&& w.c)
  ⟨t1 + s0 + majority, w.a, w.b, w.c, w.d + t1, w.e, w.f, w.g⟩

def foldBlock (state : Words) (block : List UInt32) : Words :=
  let schedule := extend 48 block.toArray
  let rounds := roundConstants.toList.zip schedule.toList
  state.add (rounds.foldl (fun w round => roundStep w round.1 round.2) state)

/-- Folds the given number of blocks of sixteen words. -/
def foldBlocks : Nat → Words → List UInt32 → Words
  | 0, state, _ => state
  | count + 1, state, words => foldBlocks count (foldBlock state (words.take 16)) (words.drop 16)

def sha256 (bytes : List UInt8) : List UInt8 :=
  let words := wordsOfBytes (padded bytes)
  (foldBlocks (words.length / 16) .initial words).toList.flatMap bytesOfWord

def hexChar (n : UInt8) : Char :=
  Char.ofNat (if n < 10 then n.toNat + 0x30 else n.toNat + 0x57)

def hex (bytes : List UInt8) : List Char :=
  bytes.flatMap (fun (b : UInt8) => [hexChar (b >>> 4), hexChar (b &&& 0x0F)])

/-- The digest of a text's UTF-8 bytes in lower-case hexadecimal. -/
def ofText (text : String) : String :=
  String.ofList (hex (sha256 text.toUTF8.toList))

end Digest
end Provision
