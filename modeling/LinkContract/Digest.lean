import LinkContract.Names
import LinkContract.Text.Basic

/-!
# Digests

The message of SHA-256 is padded to a multiple of 64 bytes with a one bit, zeros and
its length in bits. Each block of sixteen words is extended to a schedule of
sixty-four, which drives as many rounds of mixing; the mixed state is added to the
one before the block.

For the digest of a set of names the names are sorted, freed of repeats and joined
by line feeds, so it depends on the set of names alone.
-/
namespace LinkContract.Sha256

def roundConstants : List UInt32 :=
  [0x428a2f98, 0x71374491, 0xb5c0fbcf, 0xe9b5dba5, 0x3956c25b, 0x59f111f1, 0x923f82a4, 0xab1c5ed5,
    0xd807aa98, 0x12835b01, 0x243185be, 0x550c7dc3, 0x72be5d74, 0x80deb1fe, 0x9bdc06a7, 0xc19bf174,
    0xe49b69c1, 0xefbe4786, 0x0fc19dc6, 0x240ca1cc, 0x2de92c6f, 0x4a7484aa, 0x5cb0a9dc, 0x76f988da,
    0x983e5152, 0xa831c66d, 0xb00327c8, 0xbf597fc7, 0xc6e00bf3, 0xd5a79147, 0x06ca6351, 0x14292967,
    0x27b70a85, 0x2e1b2138, 0x4d2c6dfc, 0x53380d13, 0x650a7354, 0x766a0abb, 0x81c2c92e, 0x92722c85,
    0xa2bfe8a1, 0xa81a664b, 0xc24b8b70, 0xc76c51a3, 0xd192e819, 0xd6990624, 0xf40e3585, 0x106aa070,
    0x19a4c116, 0x1e376c08, 0x2748774c, 0x34b0bcb5, 0x391c0cb3, 0x4ed8aa4a, 0x5b9cca4f, 0x682e6ff3,
    0x748f82ee, 0x78a5636f, 0x84c87814, 0x8cc70208, 0x90befffa, 0xa4506ceb, 0xbef9a3f7, 0xc67178f2]

structure State where
  a : UInt32
  b : UInt32
  c : UInt32
  d : UInt32
  e : UInt32
  f : UInt32
  g : UInt32
  h : UInt32
  deriving DecidableEq, Repr

def State.initial : State :=
  ⟨0x6a09e667, 0xbb67ae85, 0x3c6ef372, 0xa54ff53a, 0x510e527f, 0x9b05688c, 0x1f83d9ab, 0x5be0cd19⟩

def State.add (first second : State) : State :=
  ⟨first.a + second.a, first.b + second.b, first.c + second.c, first.d + second.d,
    first.e + second.e, first.f + second.f, first.g + second.g, first.h + second.h⟩

def State.words (state : State) : List UInt32 :=
  [state.a, state.b, state.c, state.d, state.e, state.f, state.g, state.h]

def rotateRight (word amount : UInt32) : UInt32 := word >>> amount ||| word <<< (32 - amount)

/-- The most significant byte of a word comes first. -/
def bytesOfWord (word : UInt32) : List UInt8 :=
  [(word >>> 24).toUInt8, (word >>> 16).toUInt8, (word >>> 8).toUInt8, word.toUInt8]

def wordsOfBytes : List UInt8 → List UInt32
  | a :: b :: c :: d :: rest =>
    (a.toUInt32 <<< 24 ||| b.toUInt32 <<< 16 ||| c.toUInt32 <<< 8 ||| d.toUInt32)
      :: wordsOfBytes rest
  | _ => []

/-- Zeros after the one bit, so that the length ends a block. -/
def zeroCount (length : Nat) : Nat := (119 - length % 64) % 64

def zeroBytes (count : Nat) : List UInt8 := List.replicate count 0

/-- What follows the message: a one bit, zeros, and the length of the message in bits. -/
def padding (length : Nat) : List UInt8 :=
  let bits := UInt64.ofNat (8 * length)
  0x80 :: zeroBytes (zeroCount length) ++ bytesOfWord (bits >>> 32).toUInt32
    ++ bytesOfWord bits.toUInt32

def pad (message : List UInt8) : List UInt8 := message ++ padding message.length

/-- The next word of a schedule whose latest words come first. -/
def nextWord (latest : List UInt32) : UInt32 :=
  let two := latest.getD 1 0
  let fifteen := latest.getD 14 0
  let small := rotateRight fifteen 7 ^^^ rotateRight fifteen 18 ^^^ fifteen >>> 3
  let large := rotateRight two 17 ^^^ rotateRight two 19 ^^^ two >>> 10
  latest.getD 15 0 + small + latest.getD 6 0 + large

def extend : Nat → List UInt32 → List UInt32
  | 0, latest => latest
  | count + 1, latest => extend count (nextWord latest :: latest)

def schedule (block : List UInt32) : List UInt32 := (extend 48 block.reverse).reverse

def mix (state : State) (constant word : UInt32) : State :=
  let rotated := rotateRight state.e 6 ^^^ rotateRight state.e 11 ^^^ rotateRight state.e 25
  let choice := (state.e &&& state.f) ^^^ (~~~state.e &&& state.g)
  let first := state.h + rotated + choice + constant + word
  let turned := rotateRight state.a 2 ^^^ rotateRight state.a 13 ^^^ rotateRight state.a 22
  let majority := (state.a &&& state.b) ^^^ (state.a &&& state.c) ^^^ (state.b &&& state.c)
  ⟨first + (turned + majority), state.a, state.b, state.c,
    state.d + first, state.e, state.f, state.g⟩

def compress (state : State) (block : List UInt32) : State :=
  let rounds := roundConstants.zip (schedule block)
  state.add (rounds.foldl (fun mixed pair => mix mixed pair.1 pair.2) state)

def absorb (state : State) (words : List UInt32) : State :=
  if words.length < 16 then state else absorb (compress state (words.take 16)) (words.drop 16)
termination_by words.length

def digest (message : List UInt8) : List UInt8 :=
  (absorb .initial (wordsOfBytes (pad message))).words.flatMap bytesOfWord

def hexOfByte (byte : UInt8) : List Char :=
  [Nat.digitChar (byte.toNat / 16), Nat.digitChar (byte.toNat % 16)]

/-- The digest in lower-case hexadecimal. -/
def hex (message : List UInt8) : String := String.ofList ((digest message).flatMap hexOfByte)

end LinkContract.Sha256

namespace LinkContract.Names

def joined (names : List String) : String :=
  String.ofList (Text.joinLines ((sorted names).map String.toList))

/-- The bytes that are hashed for a set of names. -/
def digestInput (names : List String) : List UInt8 := (joined names).toUTF8.toList

def digest (names : List String) : String := Sha256.hex (digestInput names)

end LinkContract.Names
