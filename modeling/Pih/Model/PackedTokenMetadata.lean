import Pih.Library.Slices
import Pih.Model.PackedTokenPlan

/-!
# The packed token metadata arena

The arena holds one row per token of the execution bucket: the token, its
position in its sequence and the ordinal of the sequence in the plan.
Materialising a plan checks the whole payload first and then writes the rows
of each sequence at the sequence's packed offset.

The view that the source returns points into the arena, which the next
materialisation overwrites.  The model's view is the contents at the time of
the call.
-/

namespace Pih

open List

def kInvalidPackedRequestIndex : ℕ := u32Max

/-- The tokens that a sequence feeds to a plan. -/
structure PackedSequenceTokens where
  sequenceGeneration : ℕ
  tokenIds : List ℕ
  producesLogits : Bool
deriving DecidableEq

structure PackedTokenMetadataLimits where
  maximumSequences : ℕ
  maximumExecutionBucketTokens : ℕ
deriving DecidableEq

/-- The rows that the backend reads. -/
structure PackedTokenMetadataView where
  generation : ℕ
  inputTokenIds : List ℕ
  positions : List ℕ
  requestIndex : List ℕ
  queryStartOffsets : List ℕ
  sampleRowIndex : List ℕ
  realTokenCount : ℕ
deriving DecidableEq

def packedTokenInputDigest (tokenIds : List ℕ) : Result Sha256Digest :=
  if tokenIds.length > u32Max then
    .error (.resourceExhausted "packed token digest input is too large")
  else
    Sha256.ofPieces (asciiBytes "pih-packed-u32-tokens-v1" ::
        u32Bytes tokenIds.length :: tokenIds.map u32Bytes)

/-- The columns that each plan reuses. -/
structure PackedTokenMetadataArena where
  maximumSequences : ℕ
  maximumTokens : ℕ
  generation : ℕ
  tokenIds : List ℕ
  positions : List ℕ
  requestIndices : List ℕ
  queryOffsets : List ℕ
  sampleRows : List ℕ
deriving DecidableEq

namespace PackedTokenMetadataArena

def create (limits : PackedTokenMetadataLimits) : Result PackedTokenMetadataArena :=
  if limits.maximumSequences = 0 ∨ limits.maximumExecutionBucketTokens = 0 then
    .error (.invalidArgument "packed metadata limits must be nonzero")
  else
    let tokens := limits.maximumExecutionBucketTokens
    .ok
      { maximumSequences := limits.maximumSequences
        maximumTokens := tokens
        generation := 0
        tokenIds := replicate tokens 0
        positions := replicate tokens 0
        requestIndices := replicate tokens kInvalidPackedRequestIndex
        queryOffsets := replicate (limits.maximumSequences + 1) 0
        sampleRows := replicate limits.maximumSequences 0 }

/-- The checks on the payload of one sequence of the plan. -/
def validateSequence (input : PackedSequenceInput)
    (sequence : PackedSequenceTokens) : Result Unit :=
  if sequence.sequenceGeneration ≠ input.sequenceGeneration ∨
      sequence.tokenIds.length ≠ input.realTokenCount then
    .error (.invalidArgument "packed token payload does not match plan")
  else
    match packedTokenInputDigest sequence.tokenIds with
    | .error status => .error status
    | .ok digest =>
      if digest ≠ input.inputDigest then
        .error (.invalidArgument "packed token payload digest mismatch")
      else if sequence.tokenIds.length ≠ 0 then
        match checkedAddU64 input.committedStartPosition (sequence.tokenIds.length - 1) with
        | .error status => .error status
        | .ok _ => .ok ()
      else .ok ()

/-- The validation loop, over the sequences that plan and payload share. -/
def validatePayload : List PackedSequenceInput → List PackedSequenceTokens → Result Unit
  | input :: inputs, sequence :: sequences =>
    match validateSequence input sequence with
    | .error status => .error status
    | .ok () => validatePayload inputs sequences
  | _, _ => .ok ()

variable (arena : PackedTokenMetadataArena)

/-- Write the rows of one sequence, the `ordinal`-th of its plan. -/
def writeSequence (ordinal start begin : ℕ) (tokenIds : List ℕ) : PackedTokenMetadataArena :=
  { arena with
    queryOffsets := arena.queryOffsets.set ordinal begin
    tokenIds := overwrite arena.tokenIds begin tokenIds
    positions := overwrite arena.positions begin
        ((range tokenIds.length).map fun offset => start + offset)
    requestIndices := overwrite arena.requestIndices begin (replicate tokenIds.length ordinal) }

def writeSampleRow (sample row : ℕ) : PackedTokenMetadataArena :=
  { arena with sampleRows := arena.sampleRows.set sample row }

/-- The writing loop; `samples` counts the sample rows written so far. -/
def writeSequences : PackedTokenMetadataArena → ℕ → ℕ → ℕ →
      List PackedSequenceInput → List PackedSequenceTokens →
      PackedTokenMetadataArena × ℕ
  | arena, ordinal, begin, samples, input :: inputs, sequence :: sequences =>
    let written := arena.writeSequence ordinal input.committedStartPosition begin sequence.tokenIds
    let next := begin + input.realTokenCount
    if sequence.producesLogits then
      writeSequences (written.writeSampleRow samples (next - 1))
        (ordinal + 1) next (samples + 1) inputs sequences
    else writeSequences written (ordinal + 1) next samples inputs sequences
  | arena, _, _, samples, _, _ => (arena, samples)

section

variable (arena : PackedTokenMetadataArena)

/-- Blank the rows between the real tokens and the end of the bucket. -/
def padRows (total bucket : ℕ) : PackedTokenMetadataArena :=
  { arena with
    tokenIds := overwrite arena.tokenIds total (replicate (bucket - total) 0)
    positions := overwrite arena.positions total (replicate (bucket - total) 0)
    requestIndices := overwrite arena.requestIndices total
        (replicate (bucket - total) kInvalidPackedRequestIndex) }

/-- The view of the first rows of the arena. -/
def present (plan : PackedTokenPlan) (samples : ℕ) : PackedTokenMetadataView where
  generation := arena.generation
  inputTokenIds := arena.tokenIds.take plan.executionBucketTokens
  positions := arena.positions.take plan.executionBucketTokens
  requestIndex := arena.requestIndices.take plan.executionBucketTokens
  queryStartOffsets := arena.queryOffsets.take (plan.sequenceCount + 1)
  sampleRowIndex := arena.sampleRows.take samples
  realTokenCount := plan.totalRealTokens

/-- Fill the columns for a plan and show its rows. -/
def materialize (plan : PackedTokenPlan) (sequences : List PackedSequenceTokens) :
    PackedTokenMetadataArena × Result PackedTokenMetadataView :=
  if sequences.length ≠ plan.sequenceCount ∨ sequences.length > arena.maximumSequences ∨
      plan.executionBucketTokens > arena.maximumTokens ∨
      arena.generation = u64Max then
    (arena, .error (.resourceExhausted "packed metadata arena cannot represent plan"))
  else
    match validatePayload plan.sequences sequences with
    | .error status => (arena, .error status)
    | .ok () =>
      let written := writeSequences arena 0 0 0 plan.sequences sequences
      let padded := written.1.padRows plan.totalRealTokens plan.executionBucketTokens
      let next :=
        { padded with
          queryOffsets := padded.queryOffsets.set plan.sequenceCount plan.totalRealTokens
          generation := arena.generation + 1 }
      (next, .ok (next.present plan written.2))

end

/-! ## The rows of a materialised plan -/

/-- Token, position and sequence ordinal of one row. -/
abbrev Row := ℕ × ℕ × ℕ

/-- The arena's three row arrays, read together. -/
def rows : List Row := arena.tokenIds.zip (arena.positions.zip arena.requestIndices)

/-- The rows of one sequence of a plan. -/
def sequenceRows (ordinal start : ℕ) (tokenIds : List ℕ) : List Row := tokenIds.zip
    (((range tokenIds.length).map fun offset => start + offset).zip
      (replicate tokenIds.length ordinal))

/-- The rows of the sequences of a plan, in packed order. -/
def planRows : ℕ → List PackedSequenceInput → List PackedSequenceTokens → List Row
  | ordinal, input :: inputs, sequence :: sequences =>
    sequenceRows ordinal input.committedStartPosition sequence.tokenIds ++
      planRows (ordinal + 1) inputs sequences
  | _, _, _ => []

/-- The arrays of the arena have one cell per token of the largest bucket. -/
structure Sized (arena : PackedTokenMetadataArena) : Prop where
  tokenIds : arena.tokenIds.length = arena.maximumTokens
  positions : arena.positions.length = arena.maximumTokens
  requestIndices : arena.requestIndices.length = arena.maximumTokens

theorem zip_overwrite (aligned : first.length = second.length)
    (balanced : left.length = right.length) :
    (overwrite first offset left).zip (overwrite second offset right) =
      overwrite (first.zip second) offset (left.zip right) := by
  simp only [overwrite, length_zip, balanced, Nat.min_self]
  rw [zip_append (by simp [aligned]), zip_append balanced]
  simp only [zip, take_zipWith, drop_zipWith]

theorem take_overwrite (patch : List Value) (inside : offset ≤ values.length) :
    (overwrite values offset patch).take (offset + patch.length) = values.take offset ++ patch := by
  have takeLength : (values.take offset).length = offset := by
    rw [length_take]
    omega
  unfold overwrite
  rw [← append_assoc]
  apply take_left'
  rw [length_append, takeLength]

variable {arena : PackedTokenMetadataArena}

section

variable (sized : arena.Sized)

include sized

theorem rows_writeSequence (ordinal start begin : ℕ) (tokenIds : List ℕ) :
    (arena.writeSequence ordinal start begin tokenIds).rows =
      overwrite arena.rows begin (sequenceRows ordinal start tokenIds) := by
  unfold rows writeSequence sequenceRows
  rw [zip_overwrite (by rw [sized.positions, sized.requestIndices]) (by simp), zip_overwrite
      (by simp [sized.tokenIds, sized.positions, sized.requestIndices]) (by simp)]

theorem Sized.writeSequence (ordinal start : ℕ) {tokenIds : List ℕ}
    (inside : begin + tokenIds.length ≤ arena.maximumTokens) :
    (arena.writeSequence ordinal start begin tokenIds).Sized := by
  constructor
  · change (overwrite _ _ _).length = _
    rw [length_overwrite (by rw [sized.tokenIds]; exact inside)]
    exact sized.tokenIds
  · change (overwrite _ _ _).length = _
    rw [length_overwrite (by simpa [sized.positions] using inside)]
    exact sized.positions
  · change (overwrite _ _ _).length = _
    rw [length_overwrite (by simpa [sized.requestIndices] using inside)]
    exact sized.requestIndices

theorem Sized.writeSampleRow (sample row : ℕ) : (arena.writeSampleRow sample row).Sized :=
  ⟨sized.tokenIds, sized.positions, sized.requestIndices⟩

theorem Sized.length_rows : arena.rows.length = arena.maximumTokens := by
  simp [rows, sized.tokenIds, sized.positions, sized.requestIndices]

end

@[simp]
theorem length_sequenceRows (ordinal start : ℕ) (tokenIds : List ℕ) :
    (sequenceRows ordinal start tokenIds).length = tokenIds.length := by
  simp [sequenceRows]

/-- Every payload has as many tokens as its sequence has in the plan. -/
def Matches (inputs : List PackedSequenceInput) (sequences : List PackedSequenceTokens) : Prop :=
  Forall₂ (fun input sequence =>
      sequence.sequenceGeneration = input.sequenceGeneration ∧
        sequence.tokenIds.length = input.realTokenCount)
    inputs sequences

theorem validatePayload_matches (aligned : sequences.length = inputs.length)
    (validated : validatePayload inputs sequences = .ok ()) : Matches inputs sequences := by
  induction inputs generalizing sequences with
  | nil =>
    rw [length_nil, length_eq_zero_iff] at aligned
    subst aligned
    exact .nil
  | cons _ _ induction =>
    cases sequences with
    | nil => cases aligned
    | cons =>
      unfold validatePayload at validated
      split at validated
      · cases validated
      rename_i valid
      refine .cons ?_ (induction (Nat.succ.inj aligned) validated)
      unfold validateSequence at valid
      split at valid
      · cases valid
      rename_i agree
      simpa only [not_or, not_not] using agree

/--
The writing loop fills the rows from `begin` on with the rows of the plan and
leaves the rows before `begin` alone.
-/
theorem writeSequences_rows (agree : Matches inputs sequences)
    (sized : arena.Sized) (ordinal samples begin : ℕ)
    (fits : begin + (inputs.map PackedSequenceInput.realTokenCount).sum ≤ arena.maximumTokens) :
    (writeSequences arena ordinal begin samples inputs sequences).1.Sized ∧
    (writeSequences arena ordinal begin samples inputs
        sequences).1.maximumTokens = arena.maximumTokens ∧
    (writeSequences arena ordinal begin samples inputs sequences).1.rows.take
        (begin + (inputs.map PackedSequenceInput.realTokenCount).sum) =
      arena.rows.take begin ++ planRows ordinal inputs sequences := by
  induction agree generalizing arena ordinal samples begin with
  | nil => exact ⟨sized, rfl, by simp [writeSequences, planRows]⟩
  | @cons input sequence inputs _ matched _ induction =>
    simp only [map_cons, sum_cons] at fits ⊢
    have inside : begin + sequence.tokenIds.length ≤ arena.maximumTokens := by omega
    have written := sized.writeSequence ordinal input.committedStartPosition inside
    have extended : (arena.writeSequence ordinal input.committedStartPosition begin
          sequence.tokenIds).rows.take (begin + input.realTokenCount) =
        arena.rows.take begin ++ sequenceRows ordinal input.committedStartPosition
            sequence.tokenIds := by
      rw [rows_writeSequence sized, ← matched.2]
      have start : begin ≤ arena.rows.length := by
        rw [sized.length_rows]
        omega
      have taken := take_overwrite (sequenceRows ordinal input.committedStartPosition
            sequence.tokenIds) start
      rwa [length_sequenceRows] at taken
    have remaining : begin + input.realTokenCount +
          (inputs.map PackedSequenceInput.realTokenCount).sum ≤
        arena.maximumTokens := by
      omega
    rw [← Nat.add_assoc, planRows, ← append_assoc, ← extended]
    unfold writeSequences
    split
    · exact induction (written.writeSampleRow _ _) _ _ _ remaining
    · exact induction written _ _ _ remaining

theorem rows_padRows (sized : arena.Sized) (ordered : total ≤ bucket)
    (inside : bucket ≤ arena.maximumTokens) : (arena.padRows total bucket).Sized ∧
      (arena.padRows total bucket).rows.take total = arena.rows.take total := by
  constructor
  · constructor
    · change (overwrite _ _ _).length = _
      rw [length_overwrite (by simp [sized.tokenIds]; omega)]
      exact sized.tokenIds
    · change (overwrite _ _ _).length = _
      rw [length_overwrite (by simp [sized.positions]; omega)]
      exact sized.positions
    · change (overwrite _ _ _).length = _
      rw [length_overwrite (by simp [sized.requestIndices]; omega)]
      exact sized.requestIndices
  · have zipped : (arena.padRows total bucket).rows =
        overwrite arena.rows total ((replicate (bucket - total) 0).zip
          ((replicate (bucket - total) 0).zip (replicate (bucket - total)
            kInvalidPackedRequestIndex))) := by
      unfold rows padRows
      rw [zip_overwrite (by rw [sized.positions, sized.requestIndices]) (by simp),
        zip_overwrite (by simp [sized.tokenIds, sized.positions, sized.requestIndices]) (by simp)]
    rw [zipped]
    apply take_left'
    rw [length_take, sized.length_rows]
    omega

end PackedTokenMetadataArena

/-- The rows of the view that carry real tokens. -/
def PackedTokenMetadataView.realRows (view : PackedTokenMetadataView) :
    List PackedTokenMetadataArena.Row :=
  (view.inputTokenIds.zip (view.positions.zip view.requestIndex)).take view.realTokenCount

namespace PackedTokenMetadataArena

theorem realRows_present (arena : PackedTokenMetadataArena)
    (bucket : plan.totalRealTokens ≤ plan.executionBucketTokens) (samples : ℕ) :
    (arena.present plan samples).realRows = arena.rows.take plan.totalRealTokens := by
  have zipped : (arena.present plan samples).realRows =
      (arena.rows.take plan.executionBucketTokens).take plan.totalRealTokens := by
    simp only [PackedTokenMetadataView.realRows, present, rows, zip, take_zipWith]
  rw [zipped, take_take, Nat.min_eq_left bucket]

/-- What a successful materialisation checked and presents. -/
structure Materialized (plan : PackedTokenPlan) (sequences : List PackedSequenceTokens)
    (view : PackedTokenMetadataView) : Prop where
  agree : Matches plan.sequences sequences
  realRows : view.realRows = planRows 0 plan.sequences sequences

theorem materialize_cases {arena : PackedTokenMetadataArena} (sized : arena.Sized)
    (bucket : plan.totalRealTokens ≤ plan.executionBucketTokens)
    (sequences : List PackedSequenceTokens) :
    (∃ status, arena.materialize plan sequences = (arena, .error status)) ∨
    ∃ next view, arena.materialize plan sequences = (next, .ok view) ∧
      next.Sized ∧ Materialized plan sequences view := by
  unfold materialize
  split
  · exact .inl ⟨_, rfl⟩
  rename_i represent
  simp only [not_or, not_not, Nat.not_lt] at represent
  obtain ⟨aligned, -, inside, -⟩ := represent
  split
  · exact .inl ⟨_, rfl⟩
  rename_i validated
  refine .inr ⟨_, _, rfl, ?_⟩
  have agree := validatePayload_matches aligned validated
  obtain ⟨writtenSized, writtenTokens, writtenRows⟩ := writeSequences_rows agree sized 0 0 0 (by
        rw [Nat.zero_add]
        exact Nat.le_trans bucket inside)
  obtain ⟨paddedSized, paddedRows⟩ := rows_padRows writtenSized bucket (by
        rw [writtenTokens]
        exact inside)
  refine ⟨⟨paddedSized.tokenIds, paddedSized.positions, paddedSized.requestIndices⟩, agree, ?_⟩
  rw [realRows_present _ bucket]
  refine paddedRows.trans ?_
  simpa [PackedTokenPlan.totalRealTokens, PackedTokenPlan.realTokenCounts] using writtenRows

end PackedTokenMetadataArena

end Pih
