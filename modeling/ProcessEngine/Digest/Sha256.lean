import ProcessEngine.Text.Numeral

/-!
# SHA-256

The digest of a sequence of bytes as eight 32-bit words, and its text in
lower-case hexadecimal. The message is padded by a set bit, zeros and its length
in bits to whole blocks of sixteen words, and every block is mixed into the
state by sixty-four rounds.
-/

namespace ProcessEngine

namespace Sha256

/-- The state of the eight words that the blocks are mixed into. -/
structure State where
  a : UInt32
  b : UInt32
  c : UInt32
  d : UInt32
  e : UInt32
  f : UInt32
  g : UInt32
  h : UInt32
deriving DecidableEq, Repr

/-- The state before the first block: fractional parts of the square roots of primes. -/
def initial : State :=
  ⟨0x6a09e667, 0xbb67ae85, 0x3c6ef372, 0xa54ff53a,
    0x510e527f, 0x9b05688c, 0x1f83d9ab, 0x5be0cd19⟩

/-- The round constants: fractional parts of the cube roots of primes. -/
def roundConstants : List UInt32 := [
  0x428a2f98, 0x71374491, 0xb5c0fbcf, 0xe9b5dba5, 0x3956c25b, 0x59f111f1,
  0x923f82a4, 0xab1c5ed5, 0xd807aa98, 0x12835b01, 0x243185be, 0x550c7dc3,
  0x72be5d74, 0x80deb1fe, 0x9bdc06a7, 0xc19bf174, 0xe49b69c1, 0xefbe4786,
  0x0fc19dc6, 0x240ca1cc, 0x2de92c6f, 0x4a7484aa, 0x5cb0a9dc, 0x76f988da,
  0x983e5152, 0xa831c66d, 0xb00327c8, 0xbf597fc7, 0xc6e00bf3, 0xd5a79147,
  0x06ca6351, 0x14292967, 0x27b70a85, 0x2e1b2138, 0x4d2c6dfc, 0x53380d13,
  0x650a7354, 0x766a0abb, 0x81c2c92e, 0x92722c85, 0xa2bfe8a1, 0xa81a664b,
  0xc24b8b70, 0xc76c51a3, 0xd192e819, 0xd6990624, 0xf40e3585, 0x106aa070,
  0x19a4c116, 0x1e376c08, 0x2748774c, 0x34b0bcb5, 0x391c0cb3, 0x4ed8aa4a,
  0x5b9cca4f, 0x682e6ff3, 0x748f82ee, 0x78a5636f, 0x84c87814, 0x8cc70208,
  0x90befffa, 0xa4506ceb, 0xbef9a3f7, 0xc67178f2]

/-- Rotates a word to the right. -/
def rotateRight (word : UInt32) (places : UInt32) : UInt32 :=
  (word >>> places) ||| (word <<< (32 - places))

/-- Four bytes as a word, the most significant first. -/
def wordOfBytes (first second third fourth : UInt8) : UInt32 :=
  (first.toUInt32 <<< 24) ||| (second.toUInt32 <<< 16) ||| (third.toUInt32 <<< 8) |||
    fourth.toUInt32

/-- The words of a sequence of bytes; bytes short of a word are dropped. -/
def words : List UInt8 -> List UInt32
  | first :: second :: third :: fourth :: rest =>
    wordOfBytes first second third fourth :: words rest
  | _ => []

/-- The length of the message in bits as eight bytes. -/
def lengthBytes (length : Nat) : List UInt8 :=
  (List.range 8).map (fun index => ((length * 8) >>> (8 * (7 - index))).toUInt8)

/-- The message followed by its padding. -/
def pad (message : List UInt8) : List UInt8 :=
  message ++ 0x80 :: List.replicate ((119 - message.length % 64) % 64) 0 ++
    lengthBytes message.length

/-- The word that the schedule has after sixteen given ones, of which the latest comes first. -/
def nextWord (latest : List UInt32) : UInt32 :=
  let near := latest.getD 1 0
  let far := latest.getD 14 0
  let nearMix := rotateRight near 17 ^^^ rotateRight near 19 ^^^ (near >>> 10)
  let farMix := rotateRight far 7 ^^^ rotateRight far 18 ^^^ (far >>> 3)
  nearMix + latest.getD 6 0 + farMix + latest.getD 15 0

/-- Extends a schedule, kept latest word first, by the given number of words. -/
def extend : Nat -> List UInt32 -> List UInt32
  | 0, latest => latest
  | count + 1, latest => extend count (nextWord latest :: latest)

/-- One round with its constant and its word of the schedule. -/
def round (state : State) (constant word : UInt32) : State :=
  let mixE := rotateRight state.e 6 ^^^ rotateRight state.e 11 ^^^ rotateRight state.e 25
  let choice := (state.e &&& state.f) ^^^ ((~~~ state.e) &&& state.g)
  let first := state.h + mixE + choice + constant + word
  let mixA := rotateRight state.a 2 ^^^ rotateRight state.a 13 ^^^ rotateRight state.a 22
  let majority := (state.a &&& state.b) ^^^ (state.a &&& state.c) ^^^ (state.b &&& state.c)
  ⟨first + mixA + majority, state.a, state.b, state.c, state.d + first, state.e, state.f, state.g⟩

/-- Mixes one block of sixteen words into the state. -/
def mixBlock (state : State) (block : List UInt32) : State :=
  let schedule := (extend 48 block.reverse).reverse
  let mixed := (roundConstants.zip schedule).foldl (fun state (constant, word) =>
    round state constant word) state
  ⟨state.a + mixed.a, state.b + mixed.b, state.c + mixed.c, state.d + mixed.d,
    state.e + mixed.e, state.f + mixed.f, state.g + mixed.g, state.h + mixed.h⟩

/-- Mixes the given number of blocks. -/
def mixBlocks : Nat -> State -> List UInt32 -> State
  | 0, state, _ => state
  | count + 1, state, words => mixBlocks count (mixBlock state (words.take 16)) (words.drop 16)

/-- The digest of a message. -/
def digest (message : List UInt8) : State :=
  let padded := words (pad message)
  mixBlocks (padded.length / 16) initial padded

/-- The words of a digest in order. -/
def State.toList (state : State) : List UInt32 :=
  [state.a, state.b, state.c, state.d, state.e, state.f, state.g, state.h]

/-- The digest of a text's UTF-8 bytes in sixty-four lower-case hexadecimal digits. -/
def hex (text : String) : String :=
  String.ofList ((digest text.toUTF8.toList).toList.flatMap (fun word =>
    Text.hexadecimal 8 word.toNat))

end Sha256

end ProcessEngine
