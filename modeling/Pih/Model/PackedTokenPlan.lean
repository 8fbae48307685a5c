import Pih.Core.Sha256
import Mathlib.Data.List.Nodup
import Mathlib.Algebra.GroupWithZero.Nat

/-!
# Packed token plans

A plan names the sequences that one execution serves, all in one phase, with
the number of real tokens of each.  The source keeps one vector per field of
a sequence; the model keeps the list of inputs that they are filled from and
reads the vectors off it, so that they cannot disagree in length.
-/

namespace Pih

open List

inductive PackedTokenPhase where
  | prefill
  | decode
  | verify
deriving DecidableEq, Repr

/-- The value of the enumerator, as digests encode it. -/
def PackedTokenPhase.code : PackedTokenPhase → ℕ
  | .prefill => 1
  | .decode => 2
  | .verify => 3

/-- A member of a plan. -/
structure PackedSequenceInput where
  sequenceGeneration : ℕ
  committedStartPosition : ℕ
  realTokenCount : ℕ
  stateGeneration : ℕ
  inputDigest : Sha256Digest
deriving DecidableEq

structure PackedTokenPlanLimits where
  maximumSequences : ℕ
  maximumRealTokens : ℕ
  maximumExecutionBucketTokens : ℕ
deriving DecidableEq

/-- A plan with a member for each sequence. -/
structure PackedTokenPlan where
  epoch : ℕ
  planSequence : ℕ
  phase : PackedTokenPhase
  profileRevision : List UInt8
  resourceVectorHash : Sha256Digest
  sequences : List PackedSequenceInput
  executionBucketTokens : ℕ
deriving DecidableEq

namespace PackedTokenPlan

open PackedSequenceInput

def kAbi : List UInt8 := asciiBytes "homogeneous_phase_real_tokens_v1"

variable (plan : PackedTokenPlan)

def sequenceCount : ℕ := plan.sequences.length

def orderedSequenceGenerations : List ℕ := plan.sequences.map sequenceGeneration

def committedStartPositions : List ℕ :=
  plan.sequences.map committedStartPosition

def realTokenCounts : List ℕ := plan.sequences.map realTokenCount

def inputDigests : List Sha256Digest := plan.sequences.map inputDigest

def totalRealTokens : ℕ := plan.realTokenCounts.sum

/-- The running totals of the token counts, starting with zero. -/
def offsetsFrom : ℕ → List ℕ → List ℕ
  | start, [] => [start]
  | start, count :: rest => start :: offsetsFrom (start + count) rest

def packedOffsets : List ℕ := offsetsFrom 0 plan.realTokenCounts

/-- The checks on one sequence, given the generations already in the plan. -/
def sequenceValid (phase : PackedTokenPhase) (unique : List ℕ)
    (sequence : PackedSequenceInput) : Bool :=
  ¬ (sequence.sequenceGeneration = 0 ∨ sequence.stateGeneration = 0 ∨
    ¬ sequence.inputDigest.nonzero ∨
    sequence.realTokenCount = 0 ∨
    sequence.sequenceGeneration ∈ unique ∨
    (phase = .decode ∧ sequence.realTokenCount ≠ 1) ∨
    (phase = .verify ∧ sequence.realTokenCount > 5))

/-- The loop of `Create`: the total of the tokens, or the first failure. -/
def sumSequences (phase : PackedTokenPhase) (limits : PackedTokenPlanLimits) :
    List ℕ → ℕ → List PackedSequenceInput → Result ℕ
  | _, total, [] => .ok total
  | unique, total, sequence :: rest =>
    if ¬ sequenceValid phase unique sequence then
      .error (.invalidArgument "packed token sequence is invalid")
    else
      match checkedAddU64 total sequence.realTokenCount with
      | .error _ => .error (.resourceExhausted "packed real token prefix exceeds its bound")
      | .ok next =>
        if next > limits.maximumRealTokens ∨ next > u32Max then
          .error (.resourceExhausted "packed real token prefix exceeds its bound")
        else sumSequences phase limits (unique ++ [sequence.sequenceGeneration]) next rest

/-- Build a plan after all its checks. -/
def create (epoch planSequence : ℕ) (phase : PackedTokenPhase)
    (profileRevision : List UInt8) (resourceVectorHash : Sha256Digest)
    (sequences : List PackedSequenceInput) (executionBucketTokens : ℕ)
    (limits : PackedTokenPlanLimits) : Result PackedTokenPlan :=
  if epoch = 0 ∨ planSequence = 0 ∨ profileRevision.length = 0 ∨ profileRevision.length > 128 ∨
      ¬ resourceVectorHash.nonzero ∨
      sequences.length = 0 ∨ limits.maximumSequences = 0 ∨
      limits.maximumRealTokens = 0 ∨
      limits.maximumExecutionBucketTokens = 0 ∨
      sequences.length > limits.maximumSequences ∨
      executionBucketTokens = 0 ∨
      executionBucketTokens > limits.maximumExecutionBucketTokens then
    .error (.invalidArgument "packed token plan identity is invalid")
  else
    match sumSequences phase limits [] 0 sequences with
    | .error status => .error status
    | .ok total =>
      if executionBucketTokens < total then
        .error (.invalidArgument "execution bucket is smaller than real tokens")
      else
        .ok
          { epoch
            planSequence
            phase
            profileRevision
            resourceVectorHash
            sequences
            executionBucketTokens }

/-- The bytes of one sequence in the semantic digest. -/
def sequencePieces (sequence : PackedSequenceInput) (offset : ℕ) : List (List UInt8) :=
  [u64Bytes sequence.sequenceGeneration, u64Bytes sequence.committedStartPosition,
    u64Bytes sequence.realTokenCount, u64Bytes offset, u64Bytes sequence.stateGeneration,
    sequence.inputDigest.bytes]

/-- The pieces that `semantic_digest` feeds to the hasher, in order. -/
def semanticPieces : List (List UInt8) := [u64Bytes kAbi.length, kAbi] ++
    ([plan.epoch, plan.planSequence, plan.phase.code, plan.totalRealTokens,
      plan.executionBucketTokens, plan.sequenceCount].map u64Bytes ++
    ([u64Bytes plan.profileRevision.length, plan.profileRevision, plan.resourceVectorHash.bytes] ++
    ((plan.sequences.zipWith sequencePieces plan.packedOffsets).flatten ++
      [u64Bytes (plan.packedOffsets.getLastD 0)])))

def semanticDigest : Result Sha256Digest := Sha256.ofPieces plan.semanticPieces

/-! ## What a created plan is -/

variable {sequences : List PackedSequenceInput}

/-- The generations of a plan are pairwise different and not zero. -/
theorem sumSequences_generations {phase : PackedTokenPhase}
    (summed : sumSequences phase limits unique start sequences = .ok total)
    (distinct : unique.Nodup) :
    (unique ++ sequences.map sequenceGeneration).Nodup ∧ total = start +
      (sequences.map realTokenCount).sum := by
  induction sequences generalizing unique start with
  | nil =>
    cases summed
    simpa using distinct
  | cons sequence _ induction =>
    rcases Result.else_eq_ok.mp summed with ⟨valid, summed⟩
    have fresh : sequence.sequenceGeneration ∉ unique := by
      intro member
      simp [sequenceValid, member] at valid
    split at summed
    · cases summed
    rename_i added
    split at summed
    · cases summed
    have extended : (unique ++ [sequence.sequenceGeneration]).Nodup := by
      rw [nodup_append]
      refine ⟨distinct, nodup_singleton _, ?_⟩
      rintro _ member _ new_member rfl
      exact fresh (mem_singleton.mp new_member ▸ member)
    obtain ⟨nodup, sum⟩ := induction summed extended
    rw [checkedAddU64_ok added] at sum
    refine ⟨by simpa using nodup, ?_⟩
    rw [sum, map_cons, sum_cons, Nat.add_assoc]

/-- What `Create` checked, and the plan it built. -/
structure Created (epoch planSequence : ℕ) (phase : PackedTokenPhase)
    (sequences : List PackedSequenceInput) (executionBucketTokens : ℕ)
    (plan : PackedTokenPlan) : Prop where
  epoch_eq : plan.epoch = epoch
  planSequence_eq : plan.planSequence = planSequence
  planSequence_ne : planSequence ≠ 0
  phase_eq : plan.phase = phase
  sequences_eq : plan.sequences = sequences
  nonempty : sequences ≠ []
  bucket_eq : plan.executionBucketTokens = executionBucketTokens
  generations : plan.orderedSequenceGenerations.Nodup
  bucket_le : plan.totalRealTokens ≤ executionBucketTokens

theorem create_ok {epoch planSequence : ℕ} {phase : PackedTokenPhase}
    {profileRevision : List UInt8} {resourceVectorHash : Sha256Digest} {executionBucketTokens : ℕ}
    {plan : PackedTokenPlan}
    (created : create epoch planSequence phase profileRevision resourceVectorHash
        sequences executionBucketTokens limits = .ok plan) :
    Created epoch planSequence phase sequences executionBucketTokens
      plan := by
  rcases Result.else_eq_ok.mp created with ⟨identity, created⟩
  split at created
  · cases created
  rename_i total summed
  rcases Result.else_eq_ok.mp created with ⟨_, created⟩
  cases created
  obtain ⟨nodup, sum⟩ := sumSequences_generations summed nodup_nil
  exact
    { epoch_eq := rfl
      planSequence_eq := rfl
      planSequence_ne := fun zero => identity (.inr (.inl zero))
      phase_eq := rfl
      sequences_eq := rfl
      nonempty := by
        rintro rfl
        simp at identity
      bucket_eq := rfl
      generations := nodup
      bucket_le := by
        change (sequences.map realTokenCount).sum ≤ _
        omega }

end PackedTokenPlan

end Pih
