import Pih.Core.Fips180
import Pih.Library.Framing
import Pih.Scheduler.SilentCalls

/-!
# The byte strings of plan and request identities

A plan and a request are identified by the hash of a byte string.  The lists in
it have no terminators: their lengths are announced before them, and every
number has a fixed width.

The numbers of the source are machine integers.  Their widths are assumed here,
since the model keeps them as natural numbers.
-/

namespace Pih

open List

theorem u64Bytes_inj (small : first ≤ u64Max) (otherSmall : second ≤ u64Max)
    (same : u64Bytes first = u64Bytes second) : first = second :=
  @eq_of_littleEndian 8 _ _ (Nat.lt_succ_of_le small) (Nat.lt_succ_of_le otherSmall) same

theorem u32Bytes_inj (small : first ≤ u32Max) (otherSmall : second ≤ u32Max)
    (same : u32Bytes first = u32Bytes second) : first = second :=
  @eq_of_littleEndian 4 _ _ (Nat.lt_succ_of_le small) (Nat.lt_succ_of_le otherSmall) same

theorem u32Bytes_flag_inj {flag other : Bool}
    (same : u32Bytes (if flag then 1 else 0) = u32Bytes (if other then 1 else 0)) :
    flag = other := by
  revert same
  cases flag <;> cases other <;> decide

/-- Two lists of the same length agree if their bytes begin alike. -/
theorem values_eq_of_start {values others : List ℕ} (small : ∀ value ∈ values, value ≤ u32Max)
    (otherSmall : ∀ value ∈ others, value ≤ u32Max) (count : values.length = others.length)
    (begins : (values.map u32Bytes).flatten ++ rest <+: (others.map u32Bytes).flatten ++ more) :
    values = others ∧ rest <+: more := by
  induction values generalizing others with
  | nil =>
    obtain rfl := length_eq_zero_iff.mp count.symm
    exact ⟨rfl, begins⟩
  | cons _ _ induction =>
    cases others with
    | nil => cases count
    | cons =>
      simp only [mem_cons, forall_eq_or_imp] at small otherSmall
      simp only [map_cons, flatten_cons, append_assoc] at begins
      obtain ⟨same, later⟩ := piece_eq_of_start (by simp [u32Bytes]) begins
      obtain ⟨rfl, ends⟩ := induction small.2 otherSmall.2 (by simpa using count) later
      exact ⟨by rw [u32Bytes_inj small.1 otherSmall.1 same], ends⟩

theorem Sha256Digest.eq_of_bytes {digest other : Sha256Digest} (same : digest.bytes = other.bytes) :
    digest = other := by
  cases digest
  cases other
  simpa using same

namespace PackedTokenPlan

/-- The numbers of a sequence are machine integers. -/
abbrev WideSequence (sequence : PackedSequenceInput) : Prop :=
  sequence.sequenceGeneration ≤ u64Max ∧ sequence.committedStartPosition ≤ u64Max ∧
    sequence.realTokenCount ≤ u64Max ∧ sequence.stateGeneration ≤ u64Max

/-- A plan that `Create` returned for machine integers. -/
structure Built (plan : PackedTokenPlan) (limits : PackedTokenPlanLimits) : Prop where
  created : create plan.epoch plan.planSequence plan.phase plan.profileRevision
    plan.resourceVectorHash plan.sequences plan.executionBucketTokens limits = .ok plan
  epoch : plan.epoch ≤ u64Max
  planSequence : plan.planSequence ≤ u64Max
  bucket : plan.executionBucketTokens ≤ u64Max
  maximum : limits.maximumSequences ≤ u64Max
  sequences : ∀ sequence ∈ plan.sequences, WideSequence sequence

variable {plan other : PackedTokenPlan} {limits otherLimits : PackedTokenPlanLimits}

theorem Built.lengths (built : plan.Built limits) :
    plan.profileRevision.length ≤ u64Max ∧ plan.sequences.length ≤ u64Max := by
  have bounds := (Result.else_eq_ok.mp built.created).1
  have maximum := built.maximum
  simp only [not_or, u64Max] at *
  omega

theorem sequences_eq {sequences others : List PackedSequenceInput} {start : ℕ}
    (wide : ∀ sequence ∈ sequences, WideSequence sequence)
    (otherWide : ∀ sequence ∈ others, WideSequence sequence)
    (count : sequences.length = others.length)
    (begins : (sequences.zipWith sequencePieces (offsetsFrom start
        (sequences.map PackedSequenceInput.realTokenCount))).flatten.flatten ++ rest <+:
      (others.zipWith sequencePieces (offsetsFrom start
        (others.map PackedSequenceInput.realTokenCount))).flatten.flatten ++ more) :
    sequences = others := by
  induction sequences generalizing others start with
  | nil => exact (length_eq_zero_iff.mp count.symm).symm
  | cons sequence _ induction =>
    cases others with
    | nil => cases count
    | cons second =>
      simp only [mem_cons, forall_eq_or_imp] at wide otherWide
      simp only [map_cons, offsetsFrom, zipWith_cons_cons, flatten_cons, flatten_append,
        append_assoc] at begins
      obtain ⟨pieces, later⟩ := pieces_eq_of_start (by
        simp [sequencePieces, u64Bytes, Sha256Digest.size]) begins
      simp only [sequencePieces, cons.injEq, and_true] at pieces
      obtain ⟨⟨generation, position, count₁, state⟩, wide⟩ := wide
      obtain ⟨⟨generation₂, position₂, count₂, state₂⟩, otherWide⟩ := otherWide
      have counts := u64Bytes_inj count₁ count₂ pieces.2.2.1
      have same : sequence = second := by
        cases sequence
        cases second
        simp only [PackedSequenceInput.mk.injEq]
        exact ⟨u64Bytes_inj generation generation₂ pieces.1,
          u64Bytes_inj position position₂ pieces.2.1, counts,
          u64Bytes_inj state state₂ pieces.2.2.2.2.1, Sha256Digest.eq_of_bytes pieces.2.2.2.2.2⟩
      rw [counts] at later
      rw [same, induction wide otherWide (by simpa using count) later]

theorem phase_eq {phase other : PackedTokenPhase}
    (same : u64Bytes phase.code = u64Bytes other.code) : phase = other := by
  revert same
  cases phase <;> cases other <;> decide

/-- The bytes of two plans that `Create` returned differ if the plans do. -/
theorem eq_of_semanticPieces (built : plan.Built limits) (otherBuilt : other.Built otherLimits)
    (same : plan.semanticPieces.flatten = other.semanticPieces.flatten) : plan = other := by
  have begins : (plan.semanticPieces.take 9).flatten ++ (plan.semanticPieces.drop 9).flatten <+:
      (other.semanticPieces.take 9).flatten ++ (other.semanticPieces.drop 9).flatten := by
    simp only [← flatten_append, take_append_drop, same, prefix_rfl]
  have widths : (plan.semanticPieces.take 9).map length =
      (other.semanticPieces.take 9).map length := rfl
  obtain ⟨header, begins⟩ := pieces_eq_of_start widths begins
  obtain ⟨revision, count⟩ := built.lengths
  obtain ⟨otherRevision, otherCount⟩ := otherBuilt.lengths
  simp only [semanticPieces, map_cons, map_nil, cons_append, nil_append, take_succ_cons, take_zero,
    cons.injEq, and_true, true_and] at header
  obtain ⟨epoch, planSequence, phase, -, bucket, counts, lengths⟩ := header
  simp only [semanticPieces, map_cons, map_nil, cons_append, nil_append, drop_succ_cons, drop_zero,
    flatten_cons] at begins
  obtain ⟨_, begins⟩ :=
    piece_eq_of_start (u64Bytes_inj revision otherRevision lengths) begins
  obtain ⟨resources, begins⟩ := piece_eq_of_start (by simp [Sha256Digest.size]) begins
  rw [flatten_append, flatten_append] at begins
  have sequences := sequences_eq built.sequences otherBuilt.sequences
    (u64Bytes_inj count otherCount counts) begins
  have epochs := u64Bytes_inj built.epoch otherBuilt.epoch epoch
  have plans := u64Bytes_inj built.planSequence otherBuilt.planSequence planSequence
  have buckets := u64Bytes_inj built.bucket otherBuilt.bucket bucket
  have hashes := Sha256Digest.eq_of_bytes resources
  have phases := phase_eq phase
  cases plan
  cases other
  simp_all

end PackedTokenPlan

namespace Submission

def pieces (request : Submission) : List (List UInt8) :=
  controllerRequestPayloadPieces request.requestGeneration request.promptTokenIds
    request.maximumNewTokens request.sampling

/-- A request of machine integers whose digest is not refused. -/
structure Wide (request : Submission) : Prop where
  sampling : request.sampling.validate request.maximumNewTokens = .ok ()
  prompt : request.promptTokenIds.length ≤ u32Max
  generation : request.requestGeneration ≤ u64Max
  maximum : request.maximumNewTokens ≤ u32Max
  temperature : request.sampling.temperature ≤ u32Max
  topP : request.sampling.topP ≤ u32Max
  topK : request.sampling.topK.getD 0 ≤ u32Max
  seed : request.sampling.effectiveSeed ≤ u64Max
  minimum : request.sampling.minimumNewTokens ≤ u32Max
  stops : ∀ token ∈ request.sampling.stopTokenIds.toList, token ≤ u32Max
  tokens : ∀ token ∈ request.promptTokenIds, token ≤ u32Max

open ControllerRequestSampling

theorem validateStopTokens_tail
    (valid : validateStopTokens total index previous tokens = .ok ()) :
    tokens.drop (total - index) = replicate (tokens.length - (total - index)) 0 := by
  induction tokens generalizing index previous with
  | nil => simp
  | cons _ _ induction =>
    unfold validateStopTokens at valid
    split_ifs at valid with tail zero
    · have later := induction valid
      rw [Nat.sub_eq_zero_of_le (by omega), drop_zero, Nat.sub_zero] at later ⊢
      rw [length_cons, replicate_succ, ← later, not_not.mp zero]
    · have later : total - index = total - (index + 1) + 1 := by omega
      simpa [later] using induction valid

variable {request other : Submission}

theorem Wide.bounds (valid : request.Wide) :
    request.sampling.sampleOrdinal = 0 ∧ request.sampling.topLogprobsCount ≤ 20 ∧
      request.sampling.stopTokenCount ≤ 16 ∧
      request.sampling.stopTokenIds.toList =
        request.sampling.stopTokens ++ replicate (16 - request.sampling.stopTokenCount) 0 := by
  obtain ⟨bounds, valid⟩ := Result.else_eq_ok.mp valid.sampling
  split at valid
  · cases valid
  next stops =>
    have tail := validateStopTokens_tail stops
    simp only [not_or, kMaximumStopTokenIds] at bounds
    refine ⟨by omega, by omega, by omega, ?_⟩
    rw [Nat.sub_zero, Vector.length_toList] at tail
    rw [← tail, stopTokens, take_append_drop]

/-- The bytes of two valid requests differ if the requests do. -/
theorem eq_of_pieces (valid : request.Wide) (otherValid : other.Wide)
    (same : request.pieces.flatten = other.pieces.flatten) : request = other := by
  have begins : (request.pieces.take 15).flatten ++ (request.pieces.drop 15).flatten <+:
      (other.pieces.take 15).flatten ++ (other.pieces.drop 15).flatten := by
    simp only [← flatten_append, take_append_drop, same, prefix_rfl]
  have widths : (request.pieces.take 15).map length = (other.pieces.take 15).map length := rfl
  obtain ⟨header, begins⟩ := pieces_eq_of_start widths begins
  simp only [pieces, controllerRequestPayloadPieces, cons_append, nil_append, take_succ_cons,
    take_zero, cons.injEq, and_true, true_and] at header
  simp only [pieces, controllerRequestPayloadPieces, cons_append, nil_append, drop_succ_cons,
    drop_zero, flatten_append] at begins
  obtain ⟨generation, promptLength, maximum, mode, temperature, topP, hasTopK, topK, seed, -,
    minimum, logprobs, topLogprobs, stopCount⟩ := header
  obtain ⟨_, logs, stops, ids⟩ := valid.bounds
  obtain ⟨_, otherLogs, otherStops, otherIds⟩ := otherValid.bounds
  have counts := u32Bytes_inj (stops.trans (by decide)) (otherStops.trans (by decide)) stopCount
  obtain ⟨stopTokens, begins⟩ := @values_eq_of_start _ _ request.sampling.stopTokens
    other.sampling.stopTokens (fun token member => valid.stops token (mem_of_mem_take member))
    (fun token member => otherValid.stops token (mem_of_mem_take member))
    (by simp [stopTokens, counts]) begins
  have prompts := (@values_eq_of_start [] [] _ _ valid.tokens otherValid.tokens
    (u32Bytes_inj valid.prompt otherValid.prompt promptLength) (by simpa using begins)).1
  have arrays : request.sampling.stopTokenIds = other.sampling.stopTokenIds := by
    apply Vector.toList_inj.mp
    rw [ids, otherIds, stopTokens, counts]
  have topKs : request.sampling.topK = other.sampling.topK := by
    have present := u32Bytes_flag_inj hasTopK
    have value := u32Bytes_inj valid.topK otherValid.topK topK
    cases first : request.sampling.topK <;> cases second : other.sampling.topK <;> simp_all
  have modes : request.sampling.mode = other.sampling.mode := by
    revert mode
    cases request.sampling.mode <;> cases other.sampling.mode <;> decide
  have generations := u64Bytes_inj valid.generation otherValid.generation generation
  have maxima := u32Bytes_inj valid.maximum otherValid.maximum maximum
  have temperatures := u32Bytes_inj valid.temperature otherValid.temperature temperature
  have topPs := u32Bytes_inj valid.topP otherValid.topP topP
  have seeds := u64Bytes_inj valid.seed otherValid.seed seed
  have minima := u32Bytes_inj valid.minimum otherValid.minimum minimum
  have flags := u32Bytes_flag_inj logprobs
  have logprobCounts :=
    u32Bytes_inj (logs.trans (by decide)) (otherLogs.trans (by decide)) topLogprobs
  obtain ⟨_, _, _, sampling⟩ := request
  obtain ⟨_, _, _, otherSampling⟩ := other
  cases sampling
  cases otherSampling
  simp_all

end Submission

/--
The digests are the hashes of byte strings, and equal byte strings identify
equal plans and equal requests.
-/
theorem identity_preimages_injective :
    (∀ (plan : PackedTokenPlan) (limits : PackedTokenPlanLimits), plan.Built limits →
      (∀ digest, plan.semanticDigest = .ok digest →
        digest = Fips180.digest plan.semanticPieces.flatten) ∧
      ∀ (other : PackedTokenPlan) (otherLimits : PackedTokenPlanLimits), other.Built otherLimits →
        plan.semanticPieces.flatten = other.semanticPieces.flatten → plan = other) ∧
    ∀ request : Submission, request.Wide →
      (∀ digest, controllerRequestPayloadDigest request.requestGeneration request.promptTokenIds
          request.maximumNewTokens request.sampling = .ok digest →
        digest = Fips180.digest request.pieces.flatten) ∧
      ∀ other : Submission, other.Wide →
        request.pieces.flatten = other.pieces.flatten → request = other := by
  constructor
  · intro plan limits built
    exact ⟨fun _ => Sha256.eq_of_ofPieces, fun _ _ => PackedTokenPlan.eq_of_semanticPieces built⟩
  · intro request wide
    exact ⟨fun _ done => Sha256.eq_of_ofPieces (Result.else_eq_ok.mp done).2,
      fun _ => Submission.eq_of_pieces wide⟩

def sampleDigest : Sha256Digest := ⟨replicate 32 0x61, by simp⟩

/-- A plan of one sequence that processes two tokens from a position on. -/
def planFrom (position : ℕ) : PackedTokenPlan :=
  ⟨1, 1, .prefill, [0x61], sampleDigest, [⟨1, position, 2, 1, sampleDigest⟩], 2⟩

set_option maxRecDepth 100000 in
/-- Two plans and two requests that are hashed as different byte strings. -/
theorem identity_preimages_injective_small :
    (∃ digest, (planFrom 0).semanticDigest = .ok digest ∧
      digest = Fips180.digest (planFrom 0).semanticPieces.flatten) ∧
    (planFrom 0).semanticPieces.flatten ≠ (planFrom 1).semanticPieces.flatten ∧
    (∃ digest, controllerRequestPayloadDigest 1 [5, 6] 1 {} = .ok digest ∧
      digest = Fips180.digest (Submission.pieces ⟨1, [5, 6], 1, {}⟩).flatten) ∧
    (Submission.pieces ⟨1, [5, 6], 1, {}⟩).flatten ≠
      (Submission.pieces ⟨1, [6, 5], 1, {}⟩).flatten := by
  have plan := identity_preimages_injective.1 (planFrom 0) ⟨1, 2, 2⟩ (by constructor <;> decide)
  have request := identity_preimages_injective.2 ⟨1, [5, 6], 1, {}⟩ (by constructor <;> decide)
  refine ⟨⟨_, rfl, plan.1 _ rfl⟩, fun same => ?_, ⟨_, rfl, request.1 _ rfl⟩, fun same => ?_⟩
  · have plans := plan.2 (planFrom 1) ⟨1, 2, 2⟩ (by constructor <;> decide) same
    exact absurd (congrArg PackedTokenPlan.sequences plans) (by decide)
  · have requests := request.2 ⟨1, [6, 5], 1, {}⟩ (by constructor <;> decide) same
    exact absurd requests (by decide)

end Pih
