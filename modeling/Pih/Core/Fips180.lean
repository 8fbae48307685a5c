import Pih.Core.Sha256
import Mathlib.Tactic.Abel
import Mathlib.Data.BitVec

/-!
# SHA-256 as the standard states it

The hash of FIPS 180-4 for messages of whole bytes: the constants are computed
from the roots of the first primes, the message is padded as a whole and then
cut into blocks.  The streaming hasher returns this digest for every way to
feed it the message.
-/

namespace Pih

open List

namespace Fips180

open Sha256
open Sha256 (Words)

/-! ## The standard -/

/-- The first 64 primes. -/
def primes : List ℕ := (range 312).filter fun number =>
    2 ≤ number ∧ ∀ factor < number, 2 ≤ factor → number % factor ≠ 0

/-- The first 32 bits of the fraction of the root, found bit by bit. -/
def rootFraction (degree number : ℕ) : BitVec 32 := .ofNat 32 <| (range 36).foldl (fun root bit =>
      if (root + 2 ^ (35 - bit)) ^ degree ≤ number * 2 ^ (32 * degree) then root + 2 ^ (35 - bit)
      else root) 0

/-- The constant of a round. -/
def roundConstant (time : ℕ) : BitVec 32 := rootFraction 3 (primes.getD time 0)

def initialHash (index : ℕ) : BitVec 32 := rootFraction 2 (primes.getD index 0)

section

variable (x y z : BitVec 32)

def choose : BitVec 32 := (x &&& y) ^^^ (~~~x &&& z)

def majority : BitVec 32 := (x &&& y) ^^^ (x &&& z) ^^^ (y &&& z)

def bigSigma0 : BitVec 32 := x.rotateRight 2 ^^^ x.rotateRight 13 ^^^ x.rotateRight 22

def bigSigma1 : BitVec 32 := x.rotateRight 6 ^^^ x.rotateRight 11 ^^^ x.rotateRight 25

def smallSigma0 : BitVec 32 := x.rotateRight 7 ^^^ x.rotateRight 18 ^^^ (x >>> 3)

def smallSigma1 : BitVec 32 := x.rotateRight 17 ^^^ x.rotateRight 19 ^^^ (x >>> 10)

end

/-- The bytes of a bit string, the leftmost bits first. -/
def bytesOf (count : ℕ) (bits : BitVec (8 * count)) : List UInt8 :=
  (range count).map fun index => ⟨bits.extractLsb' (8 * (count - 1 - index)) 8⟩

/-- The message followed by a one bit, zeros and its length as a string of 64 bits. -/
def pad (message : List UInt8) : List UInt8 :=
  message ++ 0x80 :: (replicate ((119 - message.length % 64) % 64) 0 ++
    bytesOf 8 (.ofNat 64 (message.length * 8)))

/-- A word of a block is the concatenation of its four bytes. -/
def wordAt (block : List UInt8) (time : ℕ) : BitVec 32 :=
  (block.getD (4 * time) 0).toBitVec ++ (block.getD (4 * time + 1) 0).toBitVec ++
    (block.getD (4 * time + 2) 0).toBitVec ++
    (block.getD (4 * time + 3) 0).toBitVec

def schedule (block : List UInt8) (time : ℕ) : BitVec 32 :=
  if time < 16 then wordAt block time
  else
    smallSigma1 (schedule block (time - 2)) + schedule block (time - 7) +
      smallSigma0 (schedule block (time - 15)) + schedule block (time - 16)
termination_by time

def step (block : List UInt8) (words : Words) (time : ℕ) : Words :=
  let temporary1 := words.h + bigSigma1 words.e +
    choose words.e words.f words.g + roundConstant time + schedule block time
  let temporary2 := bigSigma0 words.a + majority words.a words.b words.c
  ⟨temporary1 + temporary2, words.a, words.b, words.c, words.d + temporary1,
    words.e, words.f, words.g⟩

/-- The hash value after one more block. -/
def hashBlock (hash : Words) (block : List UInt8) : Words :=
  let last := (range 64).foldl (step block) hash
  ⟨hash.a + last.a, hash.b + last.b, hash.c + last.c, hash.d + last.d,
    hash.e + last.e, hash.f + last.f, hash.g + last.g, hash.h + last.h⟩

/-- The hash value of the blocks of a padded message. -/
def hashBlocks (count : ℕ) (hash : Words) (padded : List UInt8) : Words := (range count).foldl
    (fun hash index => hashBlock hash ((padded.drop (64 * index)).take 64)) hash

def initial : Words := ⟨initialHash 0, initialHash 1, initialHash 2, initialHash 3, initialHash 4,
    initialHash 5, initialHash 6, initialHash 7⟩

/-- The concatenation of the words of a hash value. -/
def output (hash : Words) : List UInt8 :=
  [hash.a, hash.b, hash.c, hash.d, hash.e, hash.f, hash.g, hash.h].flatMap (bytesOf 4)

/-- The SHA-256 digest of a message. -/
def digest (message : List UInt8) : Sha256Digest :=
  ⟨output (hashBlocks ((pad message).length / 64) initial (pad message)), rfl⟩

/-! ## One block -/

set_option maxRecDepth 100000 in
theorem roundConstants_eq : kRoundConstants = (range 64).map roundConstant := by
  decide +kernel

set_option maxRecDepth 100000 in
theorem initialWords_eq : initialWords = initial := by decide +kernel

theorem loadBe32_eq (first second third fourth : UInt8) :
    loadBe32 first second third fourth =
      first.toBitVec ++ second.toBitVec ++ third.toBitVec ++ fourth.toBitVec := by
  apply BitVec.eq_of_toNat_eq
  have bound := (first.toBitVec ++ second.toBitVec ++ third.toBitVec ++ fourth.toBitVec).isLt
  simp only [BitVec.toNat_append, Nat.shiftLeft_or_distrib, ← Nat.shiftLeft_add] at bound
  simp only [BitVec.toNat_append, Nat.shiftLeft_or_distrib, ← Nat.shiftLeft_add]
  exact Nat.mod_eq_of_lt bound

theorem lengthBytes_eq (bits : ℕ) : lengthBytes bits = bytesOf 8 (.ofNat 64 bits) := by
  apply map_congr_left
  intro index inside
  apply UInt8.toBitVec_inj.mp
  change BitVec.ofNat 8 _ = _
  ext place low
  have kept : (7 - index) * 8 + place < 64 := by omega
  simp only [BitVec.getElem_eq_testBit_toNat, BitVec.extractLsb'_toNat, BitVec.toNat_ofNat,
    Nat.testBit_mod_two_pow, Nat.testBit_shiftRight, Nat.mul_comm 8, kept]
  rfl

theorem digestBytes_eq (words : Words) : digestBytes words = output words := rfl

theorem loadWords_eq {count : ℕ} {block : List UInt8} (size : block.length = 4 * count) :
    loadWords block = (range count).map (wordAt block) := by
  induction count generalizing block with
  | zero =>
    rw [length_eq_zero_iff.mp size]
    rfl
  | succ _ induction =>
    match block with
    | first :: second :: third :: fourth :: rest =>
      rw [loadWords, induction (by simp at size; omega),
        loadBe32_eq, range_succ_eq_map, map_cons, map_map]
      rfl

theorem extendSchedule_eq (block : List UInt8) (remaining time : ℕ) :
    extendSchedule remaining ((range' time 16).map (schedule block)) =
      (range' time (remaining + 16)).map (schedule block) := by
  induction remaining generalizing time with
  | zero => rw [extendSchedule]
  | succ remaining induction =>
    have successor : schedule block (time + 16) =
        schedule block time + smallSigma0 (schedule block (time + 1)) +
          schedule block (time + 9) +
          smallSigma1 (schedule block (time + 14)) := by
      rw [schedule, if_neg (by omega)]
      simp only [Nat.reduceSubDiff]
      abel
    have window : ((range' time 16).map (schedule block)).drop 1 ++ [schedule block (time + 16)] =
        (range' (time + 1) 16).map (schedule block) := rfl
    rw [@range'_succ time (remaining + 16), map_cons, ← induction, ← window, successor]
    rfl

theorem compress_eq {block : List UInt8} (size : block.length = 64)
    (hash : Words) : compress hash block = hashBlock hash block := by
  have first : loadWords block = (range' 0 16).map (schedule block) := by
    rw [loadWords_eq (show block.length = 4 * 16 from size), range_eq_range']
    apply map_congr_left
    intro time inside
    rw [schedule, if_pos (mem_range'_1.mp inside).2]
  have rounds : ∀ times : List ℕ, ((times.map roundConstant).zip (times.map (schedule block))).foldl
      round hash = times.foldl (step block) hash := by
    intro times
    rw [zip_map', foldl_map]
    rfl
  simp only [compress, first, extendSchedule_eq, roundConstants_eq,
    range_eq_range', rounds, hashBlock]

end Fips180

namespace Sha256

open Fips180

/-! ## The buffer -/

/-- Compress all complete blocks and keep the rest. -/
def drain (state : Words) (input : List UInt8) : Words × List UInt8 :=
  compressBlocks (input.length / 64) state input

variable {input : List UInt8}

theorem drain_of_lt {state : Words}
    (short : input.length < 64) : drain state input = (state, input) := by
  rw [drain, Nat.div_eq_of_lt short]
  rfl

theorem drain_of_le {state : Words} (long : 64 ≤ input.length) :
    drain state input = drain (compress state (input.take 64)) (input.drop 64) := by
  have count : input.length / 64 = (input.drop 64).length / 64 + 1 := by
    rw [length_drop]
    omega
  rw [drain, count, compressBlocks, if_neg (Nat.not_lt.mpr long)]
  rfl

theorem drain_append (state : Words) (first second : List UInt8) : drain state (first ++ second) =
      drain (drain state first).1 ((drain state first).2 ++ second) := by
  by_cases short : first.length < 64
  · rw [drain_of_lt short]
  · have long := Nat.le_of_not_lt short
    rw [drain_of_le long, ← drain_append, drain_of_le
      (by rw [length_append]; omega), take_append_of_le_length long,
      drop_append_of_le_length long]
termination_by first.length

theorem length_drain (state : Words) (input : List UInt8) :
    (drain state input).2.length = input.length % 64 := by
  by_cases short : input.length < 64
  · rw [drain_of_lt short, Nat.mod_eq_of_lt short]
  · have shorter : (input.drop 64).length < input.length := by
      rw [length_drop]
      omega
    rw [drain_of_le (Nat.le_of_not_lt short), length_drain, length_drop]
    omega
termination_by input.length

theorem drain_eq_hashBlocks {count : ℕ} (size : input.length = 64 * count) (state : Words) :
    (drain state input).1 = hashBlocks count state input := by
  induction count generalizing state input with
  | zero =>
    rw [drain_of_lt (by omega)]
    rfl
  | succ count induction =>
    have rest : (input.drop 64).length = 64 * count := by
      rw [length_drop]
      omega
    rw [drain_of_le (by omega), induction rest, hashBlocks, hashBlocks,
      range_succ_eq_map, foldl_cons, foldl_map,
      compress_eq (length_take_of_le (by omega))]
    simp only [drop_drop, Nat.mul_succ, Nat.add_comm]
    rfl

/-- The hasher has absorbed the message. -/
structure Absorbed (hasher : Sha256) (message : List UInt8) : Prop where
  words : (hasher.state, hasher.buffer) = drain initialWords message
  total : hasher.totalBytes = message.length
  unfinished : hasher.finalized = false
  bound : message.length ≤ u64Max / 8

theorem absorbed_fresh : Absorbed fresh [] := ⟨rfl, rfl, rfl, Nat.zero_le _⟩

theorem keep_rest : (pair.1, if pair.2.length ≠ 0 then pair.2 else []) = pair := by
  by_cases empty : pair.2 = []
  · simp [← empty]
  · simp [empty]

variable {message : List UInt8}

theorem Absorbed.update
    (absorbed : Absorbed hasher message) (fits : message.length + input.length ≤ u64Max / 8) :
    ∃ next, hasher.update input = .ok next ∧ Absorbed next (message ++ input) := by
  have buffered := congrArg (fun pair => pair.2.length) absorbed.words
  rw [length_drain] at buffered
  have short : hasher.buffer.length < 64 := buffered.trans_lt (Nat.mod_lt _ (by decide))
  have total := absorbed.total
  unfold Sha256.update
  rw [absorbed.unfinished, if_neg Bool.false_ne_true, if_neg (by omega)]
  refine ⟨_, rfl, ?_, (congrArg (· + _) total).trans length_append.symm, rfl,
    length_append.trans_le fits⟩
  rw [drain_append, ← absorbed.words]
  -- An empty buffer, one that stays open and one that is filled.
  by_cases empty : hasher.buffer.length = 0
  · simp only [length_eq_zero_iff.mp empty, length_nil]
    exact keep_rest
  rw [if_pos empty]
  by_cases open_ : hasher.buffer.length + input.length < 64
  · rw [Nat.min_eq_right (by omega), take_length, drop_length,
      if_neg (by rw [length_append]; omega), drain_of_lt (by rw [length_append]; omega)]
    rfl
  · have filled : (hasher.buffer ++ input.take (64 - hasher.buffer.length)) =
        (hasher.buffer ++ input).take 64 := by
      rw [take_append, take_of_length_le (Nat.le_of_lt short)]
    have rest : input.drop (64 - hasher.buffer.length) = (hasher.buffer ++ input).drop 64 := by
      rw [drop_append, drop_of_length_le (Nat.le_of_lt short), nil_append]
    have long : 64 ≤ (hasher.buffer ++ input).length := by
      rw [length_append]
      omega
    rw [Nat.min_eq_left (by omega), filled, rest, if_pos (length_take_of_le long), drain_of_le long]
    exact keep_rest

/-- A hasher that takes more bytes has absorbed them. -/
theorem Absorbed.of_update {next : Sha256}
    (absorbed : Absorbed hasher message) (updated : hasher.update input = .ok next) :
    Absorbed next (message ++ input) := by
  have fits : message.length + input.length ≤ u64Max / 8 := by
    have bound := absorbed.bound
    rw [← absorbed.total] at *
    simp only [Sha256.update, Result.else_eq_ok] at updated
    omega
  rcases absorbed.update fits with ⟨_, same, further⟩
  cases same.symm.trans updated
  exact further

variable {pieces : List (List UInt8)}

theorem Absorbed.of_updateAll {next : Sha256} (absorbed : Absorbed hasher message)
    (updated : hasher.updateAll pieces = .ok next) : Absorbed next (message ++ pieces.flatten) := by
  induction pieces generalizing hasher message with
  | nil =>
    cases updated
    rwa [flatten_nil, append_nil]
  | cons _ _ induction =>
    unfold Sha256.updateAll at updated
    split at updated
    · cases updated
    rename_i first
    rw [flatten_cons, ← append_assoc]
    exact induction (absorbed.of_update first) updated

theorem Absorbed.updateAll (absorbed : Absorbed hasher message)
    (fits : message.length + pieces.flatten.length ≤ u64Max / 8) :
    ∃ next, hasher.updateAll pieces = .ok next ∧ Absorbed next (message ++ pieces.flatten) := by
  induction pieces generalizing hasher message with
  | nil => exact ⟨hasher, rfl, by simpa using absorbed⟩
  | cons piece _ induction =>
    rw [flatten_cons, length_append] at fits
    rcases absorbed.update (by omega : _ + piece.length ≤ _) with ⟨_, updated, further⟩
    rcases induction further (by rw [length_append]; omega) with ⟨last, done, _⟩
    refine ⟨last, ?_, ?_⟩
    · rw [Sha256.updateAll, updated]
      exact done
    · rwa [flatten_cons, ← append_assoc]

theorem drain_block {state : Words} {block : List UInt8} (size : block.length = 64) :
    drain state block = (compress state block, []) := by
  rw [drain_of_le size.ge, take_of_length_le size.le, drop_of_length_le size.le,
    drain_of_lt (by decide)]

/-- The length fits in the block of the terminator or needs one of its own. -/
theorem compress_terminated {buffer : List UInt8} (state : Words) (bits : ℕ)
    (short : buffer.length < 64) :
    let terminated := buffer ++ [0x80]
    let started :=
      if terminated.length > 56 then
        (compress state (terminated ++ replicate (64 - terminated.length) 0), [])
      else (state, terminated)
    compress started.1 (started.2 ++ replicate (56 - started.2.length) 0 ++ lengthBytes bits) =
      (drain state (buffer ++ 0x80 ::
        (replicate ((119 - buffer.length) % 64) 0 ++ lengthBytes bits))).1 := by
  simp only [length_append, length_singleton]
  by_cases fits : buffer.length < 56
  · have zeros : (119 - buffer.length) % 64 = 56 - (buffer.length + 1) := by omega
    rw [drain_block (by simp [lengthBytes]; omega), zeros, if_neg (by omega)]
    simp
  · have zeros : (119 - buffer.length) % 64 = 64 - (buffer.length + 1) + 56 := by omega
    have split : buffer ++ 0x80 :: (replicate ((119 - buffer.length) % 64) 0 ++ lengthBytes bits) =
        (buffer ++ [0x80] ++ replicate (64 - (buffer.length + 1)) 0) ++
          (replicate 56 0 ++ lengthBytes bits) := by
      rw [zeros, replicate_add]
      simp
    have full : (buffer ++ [0x80] ++ replicate (64 - (buffer.length + 1)) 0).length = 64 := by
      simp
      omega
    rw [split, drain_append, drain_block full, nil_append,
      drain_block (by simp [lengthBytes]), if_pos (by omega)]
    rfl

theorem Absorbed.finalize {hasher : Sha256}
    (absorbed : Absorbed hasher message) : hasher.finalize = .ok (digest message) := by
  have buffered : hasher.buffer.length = message.length % 64 :=
    (congrArg (fun pair => pair.2.length) absorbed.words).trans (length_drain _ _)
  have short : hasher.buffer.length < 64 := buffered.trans_lt (Nat.mod_lt _ (by decide))
  have size : (pad message).length = 64 * ((pad message).length / 64) := by
    simp [pad, bytesOf]
    omega
  have words := compress_terminated hasher.state (hasher.totalBytes * 8) short
  rw [lengthBytes_eq] at words
  have whole := drain_eq_hashBlocks size initialWords
  nth_rewrite 1 [pad] at whole
  rw [drain_append, ← absorbed.words, ← buffered, ← absorbed.total, initialWords_eq] at whole
  unfold Sha256.finalize
  rw [absorbed.unfinished]
  simp only [Bool.false_eq_true, if_false, lengthBytes_eq, digestBytes_eq]
  exact congrArg (fun words => (.ok ⟨output words, rfl⟩ : Result Sha256Digest)) (words.trans whole)

theorem ofPieces_eq (short : pieces.flatten.length ≤ 2 ^ 61 - 1) :
    ofPieces pieces = .ok (digest pieces.flatten) := by
  rcases absorbed_fresh.updateAll ((Nat.zero_add _).trans_le short) with ⟨_, updated, absorbed⟩
  rw [ofPieces, updated]
  exact absorbed.finalize

/-- A digest that was returned is the one of the whole message. -/
theorem eq_of_ofPieces {hash : Sha256Digest}
    (done : ofPieces pieces = .ok hash) : hash = digest pieces.flatten := by
  unfold ofPieces at done
  split at done
  · cases done
  rename_i updated
  exact Except.ok.inj (done.symm.trans (absorbed_fresh.of_updateAll updated).finalize)

/-- The one-shot hash of a byte string. -/
def sha256 (bytes : List UInt8) : Result Sha256Digest :=
  match fresh.update bytes with
  | .error status => .error status
  | .ok hasher => hasher.finalize

/--
However a message is split into updates, the hasher returns the digest of the
standard, and so does the one-shot function.
-/
theorem streaming_digest_eq_standard (pieces : List (List UInt8))
    (short : pieces.flatten.length ≤ 2 ^ 61 - 1) :
    ofPieces pieces = .ok (digest pieces.flatten) ∧
      sha256 pieces.flatten = .ok (digest pieces.flatten) := by
  refine ⟨ofPieces_eq short, ?_⟩
  rcases absorbed_fresh.update ((Nat.zero_add _).trans_le short) with ⟨_, updated, absorbed⟩
  rw [sha256, updated]
  exact absorbed.finalize

theorem streaming_digest_abc :
    ofPieces [[0x61], [], [0x62, 0x63]] = .ok (digest [0x61, 0x62, 0x63]) ∧
      sha256 [0x61, 0x62, 0x63] = .ok (digest [0x61, 0x62, 0x63]) :=
  streaming_digest_eq_standard [[0x61], [], [0x62, 0x63]] (by decide)

end Sha256

end Pih
