import ProcWire.Bytes

/-! # SHA-256

The digest that stands for a password in a login request.  A message is padded to
whole blocks of sixteen words; each block is expanded to sixty-four words, which
are mixed one by one into a state of eight.  The state after the last block is the
digest, so a digest has 32 bytes whatever the message was.
-/
namespace ProcWire.Sha256

/-- The chaining state. -/
structure State where
  a : UInt32
  b : UInt32
  c : UInt32
  d : UInt32
  e : UInt32
  f : UInt32
  g : UInt32
  h : UInt32
  deriving DecidableEq, Repr

/-- The state before the first block. -/
def initial : State :=
  ⟨0x6a09e667, 0xbb67ae85, 0x3c6ef372, 0xa54ff53a, 0x510e527f, 0x9b05688c, 0x1f83d9ab,
    0x5be0cd19⟩

/-- One constant for each of the sixty-four rounds. -/
def roundConstants : List UInt32 := [
  0x428a2f98, 0x71374491, 0xb5c0fbcf, 0xe9b5dba5, 0x3956c25b, 0x59f111f1, 0x923f82a4, 0xab1c5ed5,
  0xd807aa98, 0x12835b01, 0x243185be, 0x550c7dc3, 0x72be5d74, 0x80deb1fe, 0x9bdc06a7, 0xc19bf174,
  0xe49b69c1, 0xefbe4786, 0x0fc19dc6, 0x240ca1cc, 0x2de92c6f, 0x4a7484aa, 0x5cb0a9dc, 0x76f988da,
  0x983e5152, 0xa831c66d, 0xb00327c8, 0xbf597fc7, 0xc6e00bf3, 0xd5a79147, 0x06ca6351, 0x14292967,
  0x27b70a85, 0x2e1b2138, 0x4d2c6dfc, 0x53380d13, 0x650a7354, 0x766a0abb, 0x81c2c92e, 0x92722c85,
  0xa2bfe8a1, 0xa81a664b, 0xc24b8b70, 0xc76c51a3, 0xd192e819, 0xd6990624, 0xf40e3585, 0x106aa070,
  0x19a4c116, 0x1e376c08, 0x2748774c, 0x34b0bcb5, 0x391c0cb3, 0x4ed8aa4a, 0x5b9cca4f, 0x682e6ff3,
  0x748f82ee, 0x78a5636f, 0x84c87814, 0x8cc70208, 0x90befffa, 0xa4506ceb, 0xbef9a3f7, 0xc67178f2]

/-- Rotation to the right. -/
def rotate (x : UInt32) (n : UInt32) : UInt32 := (x >>> n) ||| (x <<< (32 - n))

/-- The next word of a schedule from the sixteen words before it, oldest first. -/
def nextWord : List UInt32 → UInt32
  | [w0, w1, _, _, _, _, _, _, _, w9, _, _, _, _, w14, _] =>
    let s0 := rotate w1 7 ^^^ rotate w1 18 ^^^ (w1 >>> 3)
    let s1 := rotate w14 17 ^^^ rotate w14 19 ^^^ (w14 >>> 10)
    w0 + s0 + w9 + s1
  | _ => 0

/-- The words of a schedule: those of the window, and then as many more as `n` says. -/
def schedule (window : List UInt32) : Nat → List UInt32
  | 0 => window
  | n + 1 =>
    match window with
    | [] => []
    | oldest :: rest => oldest :: schedule (rest ++ [nextWord window]) n

/-- One round. -/
def round (s : State) (constant word : UInt32) : State :=
  let s1 := rotate s.e 6 ^^^ rotate s.e 11 ^^^ rotate s.e 25
  let choice := (s.e &&& s.f) ^^^ (~~~s.e &&& s.g)
  let t1 := s.h + s1 + choice + constant + word
  let s0 := rotate s.a 2 ^^^ rotate s.a 13 ^^^ rotate s.a 22
  let majority := (s.a &&& s.b) ^^^ (s.a &&& s.c) ^^^ (s.b &&& s.c)
  ⟨t1 + (s0 + majority), s.a, s.b, s.c, s.d + t1, s.e, s.f, s.g⟩

/-- Sixty-four rounds, and the state before them added in. -/
def compress (s : State) (block : List UInt32) : State :=
  let m := (roundConstants.zip (schedule block 48)).foldl (fun s (k, w) => round s k w) s
  ⟨s.a + m.a, s.b + m.b, s.c + m.c, s.d + m.d, s.e + m.e, s.f + m.f, s.g + m.g, s.h + m.h⟩

/-- The number of zero bytes between the marker and the length of a padded message. -/
def zeroCount (length : Nat) : Nat := (119 - length % 64) % 64

/-- The message, a marker byte, zeros up to the end of a block less eight bytes, and the length
of the message in bits. -/
def pad (message : Bytes) : Bytes :=
  message ++ 0x80 :: List.replicate (zeroCount message.length) 0 ++
    Bytes.ofNat 8 (message.length * 8)

/-- The big-endian words of a run of bytes; one to three bytes left over are dropped. -/
def words : Bytes → List UInt32
  | b0 :: b1 :: b2 :: b3 :: rest =>
    (b0.toUInt32 <<< 24 ||| b1.toUInt32 <<< 16 ||| b2.toUInt32 <<< 8 ||| b3.toUInt32) :: words rest
  | _ => []

/-- Mixes so many blocks of 64 bytes into a state. -/
def absorb (s : State) (bytes : Bytes) : Nat → State
  | 0 => s
  | blocks + 1 => absorb (compress s (words (bytes.take 64))) (bytes.drop 64) blocks

/-- The bytes of a state. -/
def State.bytes (s : State) : Bytes :=
  [s.a, s.b, s.c, s.d, s.e, s.f, s.g, s.h].flatMap fun word => Bytes.ofNat 4 word.toNat

theorem State.length_bytes (s : State) : s.bytes.length = 32 := by
  simp [State.bytes]

/-- The state after the last block of a message. -/
def finalState (message : Bytes) : State :=
  let padded := pad message
  absorb initial padded (padded.length / 64)

/-- The digest of a message. -/
def digest (message : Bytes) : Bytes := (finalState message).bytes

/-- A digest has 32 bytes. -/
@[simp] theorem length_digest (message : Bytes) : (digest message).length = 32 :=
  State.length_bytes _

/-- A padded message fills whole blocks. -/
theorem length_pad_mod (message : Bytes) : (pad message).length % 64 = 0 := by
  simp only [pad, zeroCount, List.length_append, List.length_cons, List.length_replicate,
    Bytes.length_ofNat]
  omega

end ProcWire.Sha256
