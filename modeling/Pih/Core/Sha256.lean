import Pih.Core.Status
import Mathlib.Data.List.Basic

/-!
# The SHA-256 hasher

A streaming hasher: bytes are buffered until a block of 64 is complete and
the block is then compressed into the chaining state.  The digests that
identify requests, plans and controller states are computed with it.
-/

namespace Pih

open List

/-- A digest is exactly 32 bytes. -/
structure Sha256Digest where
  bytes : List UInt8
  size : bytes.length = 32
deriving DecidableEq

namespace Sha256Digest

/-- The value-initialised digest, used as "absent" by the identity checks. -/
def zero : Sha256Digest := ⟨replicate 32 0, by simp⟩

instance : Inhabited Sha256Digest := ⟨zero⟩

/-- Some byte of the digest is not zero. -/
def nonzero (digest : Sha256Digest) : Bool := digest.bytes.any (fun byte => byte != 0)

end Sha256Digest

namespace Sha256

def kRoundConstants : List (BitVec 32) := [
  0x428a2f98, 0x71374491, 0xb5c0fbcf, 0xe9b5dba5, 0x3956c25b,
  0x59f111f1, 0x923f82a4, 0xab1c5ed5, 0xd807aa98, 0x12835b01,
  0x243185be, 0x550c7dc3, 0x72be5d74, 0x80deb1fe, 0x9bdc06a7,
  0xc19bf174, 0xe49b69c1, 0xefbe4786, 0x0fc19dc6, 0x240ca1cc,
  0x2de92c6f, 0x4a7484aa, 0x5cb0a9dc, 0x76f988da, 0x983e5152,
  0xa831c66d, 0xb00327c8, 0xbf597fc7, 0xc6e00bf3, 0xd5a79147,
  0x06ca6351, 0x14292967, 0x27b70a85, 0x2e1b2138, 0x4d2c6dfc,
  0x53380d13, 0x650a7354, 0x766a0abb, 0x81c2c92e, 0x92722c85,
  0xa2bfe8a1, 0xa81a664b, 0xc24b8b70, 0xc76c51a3, 0xd192e819,
  0xd6990624, 0xf40e3585, 0x106aa070, 0x19a4c116, 0x1e376c08,
  0x2748774c, 0x34b0bcb5, 0x391c0cb3, 0x4ed8aa4a, 0x5b9cca4f,
  0x682e6ff3, 0x748f82ee, 0x78a5636f, 0x84c87814, 0x8cc70208,
  0x90befffa, 0xa4506ceb, 0xbef9a3f7, 0xc67178f2]

/-- The eight chaining words, also the working variables of one block. -/
structure Words where
  a : BitVec 32
  b : BitVec 32
  c : BitVec 32
  d : BitVec 32
  e : BitVec 32
  f : BitVec 32
  g : BitVec 32
  h : BitVec 32
deriving DecidableEq

def initialWords : Words := ⟨0x6a09e667, 0xbb67ae85, 0x3c6ef372, 0xa54ff53a,
    0x510e527f, 0x9b05688c, 0x1f83d9ab, 0x5be0cd19⟩

def loadBe32 (first second third fourth : UInt8) : BitVec 32 := BitVec.ofNat 32
    (first.toNat <<< 24 ||| second.toNat <<< 16 ||| third.toNat <<< 8 ||| fourth.toNat)

def storeBe32 (value : BitVec 32) : List UInt8 :=
  [UInt8.ofNat (value.toNat >>> 24), UInt8.ofNat (value.toNat >>> 16),
    UInt8.ofNat (value.toNat >>> 8), UInt8.ofNat value.toNat]

/-- The big-endian words of a byte string whose length is a multiple of four. -/
def loadWords : List UInt8 → List (BitVec 32)
  | first :: second :: third :: fourth :: rest =>
    loadBe32 first second third fourth :: loadWords rest
  | _ => []

/--
The message schedule.  `window` holds the last sixteen words, oldest first;
each round emits the oldest and appends its successor.
-/
def extendSchedule : ℕ → List (BitVec 32) → List (BitVec 32)
  | 0, window => window
  | remaining + 1, window =>
    let oldest := window.getD 0 0
    let fifteenth := window.getD 1 0
    let second := window.getD 14 0
    let s0 := fifteenth.rotateRight 7 ^^^ fifteenth.rotateRight 18 ^^^
      (fifteenth >>> 3)
    let s1 := second.rotateRight 17 ^^^ second.rotateRight 19 ^^^
      (second >>> 10)
    oldest :: extendSchedule remaining (window.drop 1 ++ [oldest + s0 + window.getD 9 0 + s1])

/-- One round of the compression function. -/
def round (words : Words) (input : BitVec 32 × BitVec 32) : Words :=
  let sigma1 := words.e.rotateRight 6 ^^^ words.e.rotateRight 11 ^^^
    words.e.rotateRight 25
  let choose := (words.e &&& words.f) ^^^ (~~~words.e &&& words.g)
  let temporary1 := words.h + sigma1 + choose + input.1 + input.2
  let sigma0 := words.a.rotateRight 2 ^^^ words.a.rotateRight 13 ^^^
    words.a.rotateRight 22
  let majority := (words.a &&& words.b) ^^^ (words.a &&& words.c) ^^^
    (words.b &&& words.c)
  ⟨temporary1 + (sigma0 + majority), words.a, words.b, words.c,
    words.d + temporary1, words.e, words.f, words.g⟩

/-- Mix one block of 64 bytes into the chaining words. -/
def compress (state : Words) (block : List UInt8) : Words :=
  let schedule := extendSchedule 48 (loadWords block)
  let mixed := (kRoundConstants.zip schedule).foldl round state
  ⟨state.a + mixed.a, state.b + mixed.b, state.c + mixed.c,
    state.d + mixed.d, state.e + mixed.e, state.f + mixed.f, state.g + mixed.g, state.h + mixed.h⟩

end Sha256

/-- A hasher that has absorbed `totalBytes` bytes. -/
structure Sha256 where
  state : Sha256.Words
  buffer : List UInt8
  totalBytes : ℕ
  finalized : Bool
deriving DecidableEq

namespace Sha256

def fresh : Sha256 := ⟨initialWords, [], 0, false⟩

/--
Compress the complete blocks of `input`, at most `blocks` of them, and return
the rest.
-/
def compressBlocks : ℕ → Words → List UInt8 → Words × List UInt8
  | 0, state, input => (state, input)
  | blocks + 1, state, input =>
    if input.length < 64 then (state, input)
    else compressBlocks blocks (compress state (input.take 64)) (input.drop 64)

/-- Add bytes to the message. -/
def update (hasher : Sha256) (input : List UInt8) : Result Sha256 :=
  if hasher.finalized then .error (.failedPrecondition "SHA-256 state is already finalized")
  else if input.length > u64Max / 8 - hasher.totalBytes then
    .error (.resourceExhausted "SHA-256 bit length overflows u64")
  else
    let copied :=
      if hasher.buffer.length ≠ 0 then min (64 - hasher.buffer.length) input.length
      else 0
    let filled := hasher.buffer ++ input.take copied
    let started :=
      if filled.length = 64 then (compress hasher.state filled, [])
      else (hasher.state, filled)
    let rest := input.drop copied
    let compressed := compressBlocks (rest.length / 64) started.1 rest
    .ok
      { state := compressed.1
        buffer := if compressed.2.length ≠ 0 then compressed.2 else started.2
        totalBytes := hasher.totalBytes + input.length
        finalized := false }

/-- The eight big-endian bytes of a 64-bit length. -/
def lengthBytes (bits : ℕ) : List UInt8 :=
  (range 8).map fun index => UInt8.ofNat (bits >>> ((7 - index) * 8))

def digestBytes (words : Words) : List UInt8 :=
  storeBe32 words.a ++ (storeBe32 words.b ++ (storeBe32 words.c ++
    (storeBe32 words.d ++ (storeBe32 words.e ++ (storeBe32 words.f ++
      (storeBe32 words.g ++ storeBe32 words.h))))))

/--
Append the terminator, compress once more if the length no longer fits in the
block, and compress the block that ends with the bit length.
-/
def finalize (hasher : Sha256) : Result Sha256Digest :=
  if hasher.finalized then .error (.failedPrecondition "SHA-256 state is already finalized")
  else
    let terminated := hasher.buffer ++ [0x80]
    let started :=
      if terminated.length > 56 then
        (compress hasher.state (terminated ++ replicate (64 - terminated.length) 0), [])
      else (hasher.state, terminated)
    let block :=
      started.2 ++ replicate (56 - started.2.length) 0 ++ lengthBytes (hasher.totalBytes * 8)
    .ok ⟨digestBytes (compress started.1 block), rfl⟩

/-- Absorb the pieces of a message in order, stopping at the first error. -/
def updateAll : Sha256 → List (List UInt8) → Result Sha256
  | hasher, [] => .ok hasher
  | hasher, piece :: rest =>
    match hasher.update piece with
    | .error status => .error status
    | .ok next => updateAll next rest

/-- The digest of a message that is fed to a fresh hasher piece by piece. -/
def ofPieces (pieces : List (List UInt8)) : Result Sha256Digest :=
  match updateAll fresh pieces with
  | .error status => .error status
  | .ok hasher => hasher.finalize

end Sha256

/-- The little-endian bytes of a 32-bit value, as the digests encode it. -/
def u32Bytes (value : ℕ) : List UInt8 :=
  (range 4).map fun index => UInt8.ofNat (value >>> (index * 8))

/-- The little-endian bytes of a 64-bit value, as the digests encode it. -/
def u64Bytes (value : ℕ) : List UInt8 :=
  (range 8).map fun index => UInt8.ofNat (value >>> (index * 8))

/-- The bytes of an ASCII text such as a digest domain. -/
def asciiBytes (text : String) : List UInt8 :=
  text.toList.map fun character => UInt8.ofNat character.toNat

end Pih
