import Pih.Core.CanonicalHash
import Mathlib.Algebra.GroupWithZero.Nat

/-!
# Chunked prefill plans

A plan takes the next tokens of the prompts, in the order of the sequences,
until its chunk is full.  It is compiled from the progress of the sequences
alone; the caller advances them by its slices and compiles the next one.
-/

namespace Pih

open List

namespace ChunkedPrefill

/-- A prompt and how much of it was consumed. -/
structure Sequence where
  requestId : ℕ
  requestGeneration : ℕ
  promptTokenCount : ℕ
  consumedTokenCount : ℕ
deriving DecidableEq

/-- The tokens of one sequence in a plan. -/
structure Slice where
  sequenceIndex : ℕ
  requestId : ℕ
  requestGeneration : ℕ
  startPosition : ℕ
  tokenCount : ℕ
deriving DecidableEq

/-- A prefill plan and its identity. -/
structure Plan where
  planSequence : ℕ
  slices : List Slice
  tokenCount : ℕ
  publishesSampledToken : Bool
  identity : Sha256Digest

namespace Sequence

section

variable (sequence : Sequence)

def remaining : ℕ := sequence.promptTokenCount - sequence.consumedTokenCount

def Invalid : Prop := sequence.requestId = 0 ∨ sequence.requestGeneration = 0 ∨
    sequence.promptTokenCount = 0 ∨
    sequence.promptTokenCount < sequence.consumedTokenCount
deriving Decidable

/-- The request a sequence belongs to. -/
def request : ℕ × ℕ := (sequence.requestId, sequence.requestGeneration)

def fields : List CanonicalHashBuilder.Field :=
  [.u64 sequence.requestId, .u64 sequence.requestGeneration,
    .u32 sequence.promptTokenCount, .u32 sequence.consumedTokenCount]

def advance (count : ℕ) : Sequence :=
  { sequence with consumedTokenCount := sequence.consumedTokenCount + count }

end

end Sequence

def checkSequences (requestIds : List ℕ) : List Sequence → Result Unit
  | [] => .ok ()
  | sequence :: rest =>
    if sequence.Invalid then
      .error (.invalidArgument "DeepSeek chunked prefill sequence is invalid")
    else if sequence.requestId ∈ requestIds then
      .error (.invalidArgument "DeepSeek chunked prefill request ID is duplicate")
    else checkSequences (sequence.requestId :: requestIds) rest

/-- The slices of a chunk and the projected progress of all sequences. -/
def pack (index budget : ℕ) : List Sequence → List Slice × List ℕ
  | [] => ([], [])
  | sequence :: rest =>
    let count := min sequence.remaining budget
    let packed :=
      if budget - count = 0 then ([], rest.map (·.consumedTokenCount))
      else pack (index + 1) (budget - count) rest
    (if count ≠ 0 then
      ⟨index, sequence.requestId, sequence.requestGeneration,
        sequence.consumedTokenCount, count⟩ :: packed.1
    else packed.1, (sequence.consumedTokenCount + count) :: packed.2)

/-- The digest of the input and the outcome of a plan. -/
def identityOf (planSequence maximumChunkTokens tokenCount : ℕ)
    (publishes : Bool) (sequences : List Sequence) :
    Result Sha256Digest :=
  match CanonicalHashBuilder.create "pih:deepseek-chunked-prefill-plan:v1"
    (4 + sequences.length * 4) with
  | .error status => .error status
  | .ok builder =>
    builder.digestFields 1 (.u64 planSequence :: .u32 maximumChunkTokens :: .u32 tokenCount ::
        .u32 publishes.toNat ::
        sequences.flatMap Sequence.fields)

/-- Cut the next plan from the prompts. -/
def compile (planSequence maximumChunkTokens : ℕ) (sequences : List Sequence) : Result Plan :=
  if planSequence = 0 ∨ maximumChunkTokens = 0 ∨ sequences = [] ∨ 4096 < sequences.length then
    .error (.invalidArgument "DeepSeek chunked prefill plan input is invalid")
  else
    match checkSequences [] sequences with
    | .error status => .error status
    | .ok () =>
      let packed := pack 0 maximumChunkTokens sequences
      if packed.1 = [] then
        .error (.failedPrecondition "DeepSeek chunked prefill is already complete")
      else
        let tokenCount := (packed.1.map (·.tokenCount)).sum
        let publishes : Bool := packed.2 = sequences.map (·.promptTokenCount)
        match identityOf planSequence maximumChunkTokens tokenCount publishes sequences with
        | .error status => .error status
        | .ok identity => .ok ⟨planSequence, packed.1, tokenCount, publishes, identity⟩

/-- Advance the sequences by the slices of a plan. -/
def advance (slices : List Slice) (sequences : List Sequence) : List Sequence := slices.foldl
    (fun sequences slice => sequences.modify slice.sequenceIndex (·.advance slice.tokenCount))
    sequences

/-- Compile one plan for each number, each from the progress of those before. -/
def prefill (maximum : ℕ) : List ℕ → List Sequence → Result (List Plan × List Sequence)
  | [], sequences => .ok ([], sequences)
  | number :: numbers, sequences =>
    match compile number maximum sequences with
    | .error status => .error status
    | .ok plan =>
      match prefill maximum numbers (advance plan.slices sequences) with
      | .error status => .error status
      | .ok (plans, last) => .ok (plan :: plans, last)

/-! ## One chunk -/

/-- The sequences after a chunk of the budget. -/
def filled (budget : ℕ) : List Sequence → List Sequence
  | [] => []
  | sequence :: rest =>
    let count := min sequence.remaining budget
    sequence.advance count :: filled (budget - count) rest

def total (sequences : List Sequence) : ℕ := (sequences.map (·.remaining)).sum

/-- The positions a list of slices covers for one sequence. -/
def spans (index : ℕ) (slices : List Slice) : List ℕ :=
  (slices.filter (·.sequenceIndex = index)).flatMap fun slice =>
    range' slice.startPosition slice.tokenCount

theorem pack_zero (index : ℕ) (sequences : List Sequence) :
    pack index 0 sequences = ([], sequences.map (·.consumedTokenCount)) := by
  cases sequences <;> simp [pack]

/-- Stopping at a full chunk is the same as going on without budget. -/
theorem pack_cons (index budget : ℕ) (sequence : Sequence) (rest : List Sequence) :
    let count := min sequence.remaining budget
    let packed := pack (index + 1) (budget - count) rest
    pack index budget (sequence :: rest) = (if count ≠ 0 then
        ⟨index, sequence.requestId, sequence.requestGeneration,
          sequence.consumedTokenCount, count⟩ :: packed.1
      else
        packed.1, (sequence.consumedTokenCount + count) :: packed.2) := by
  intro count packed
  have same : (if budget - count = 0 then
      ([], rest.map (·.consumedTokenCount)) else packed) = packed := by
    split
    case isTrue full => simp only [packed, full, pack_zero]
    case isFalse => rfl
  rw [pack, ← same]

variable {index budget place tokens maximum : ℕ} {sequence : Sequence}
  {sequences : List Sequence}

theorem pack_projected : (pack index budget sequences).2 =
      (filled budget sequences).map (·.consumedTokenCount) := by
  induction sequences generalizing index budget with
  | nil => rfl
  | cons _ _ induction =>
    rw [pack_cons, induction]
    rfl

theorem pack_tokens : ((pack index budget sequences).1.map (·.tokenCount)).sum =
      min (total sequences) budget := by
  induction sequences generalizing index budget with
  | nil => exact (Nat.zero_min _).symm
  | cons sequence rest induction =>
    have rest := @induction (index + 1) (budget - min sequence.remaining budget)
    rw [pack_cons, total, map_cons]
    rw [total] at rest
    split <;> simp only [map_cons, sum_cons] <;> omega

theorem total_eq_zero_iff :
    total sequences = 0 ↔ ∀ sequence ∈ sequences, sequence.remaining = 0 := by
  induction sequences with
  | nil => simp [total]
  | cons _ _ induction =>
    rw [forall_mem_cons, ← induction]
    simp [total]

theorem total_filled : total (filled budget sequences) = total sequences - budget := by
  induction sequences generalizing budget with
  | nil => exact (Nat.zero_sub _).symm
  | cons sequence rest induction =>
    have rest := @induction (budget - min sequence.remaining budget)
    simp only [total, filled, map_cons, sum_cons, Sequence.remaining, Sequence.advance] at rest ⊢
    omega

theorem map_filled {read : Sequence → Value}
    (kept : ∀ sequence count, read (sequence.advance count) = read sequence) :
    (filled budget sequences).map read = sequences.map read := by
  induction sequences generalizing budget with
  | nil => rfl
  | cons _ _ induction => rw [filled, map_cons, induction, kept, map_cons]

theorem advance_pack (front : List Sequence) :
    advance (pack front.length budget sequences).1 (front ++ sequences) =
      front ++ filled budget sequences := by
  induction sequences generalizing front budget with
  | nil => rfl
  | cons sequence _ induction =>
    have next := @induction (budget - min sequence.remaining budget)
      (front ++ [sequence.advance (min sequence.remaining budget)])
    rw [length_append, append_assoc, append_assoc] at next
    rw [pack_cons, filled]
    split
    case isTrue =>
      rw [advance, foldl_cons, modify_eq_set_getElem?]
      simpa [advance] using next
    case isFalse none =>
      rw [not_not.mp none] at next ⊢
      exact next

theorem spans_cons (slice : Slice) (slices : List Slice) (place : ℕ) :
    spans place (slice :: slices) = (if slice.sequenceIndex = place then
        range' slice.startPosition slice.tokenCount
      else
        []) ++ spans place slices := by
  by_cases same : slice.sequenceIndex = place <;> simp [spans, same]

theorem spans_pack_of_lt (before : place < index) :
    spans place (pack index budget sequences).1 = [] := by
  induction sequences generalizing index budget with
  | nil => rfl
  | cons sequence _ induction =>
    have later := @induction (index + 1) (budget - min sequence.remaining budget) (by omega)
    rw [pack_cons]
    split
    · rw [spans_cons, if_neg (Nat.ne_of_gt before), later, nil_append]
    · exact later

/-- A chunk covers the positions by which it advances a sequence. -/
theorem spans_pack (member : sequences[place]? = some sequence) :
    ∃ next, (filled budget sequences)[place]? = some next ∧
      next.promptTokenCount = sequence.promptTokenCount ∧
      sequence.consumedTokenCount ≤ next.consumedTokenCount ∧
      spans (index + place) (pack index budget sequences).1 = range' sequence.consumedTokenCount
        (next.consumedTokenCount - sequence.consumedTokenCount) := by
  induction sequences generalizing index budget place with
  | nil => simp at member
  | cons _ _ induction =>
    rw [pack_cons]
    cases place with
    | zero =>
      cases member
      refine ⟨_, rfl, rfl, Nat.le_add_right _ _, ?_⟩
      rw [Sequence.advance, Nat.add_sub_cancel_left]
      split
      case isTrue =>
        rw [spans_cons, if_pos (Nat.add_zero _).symm,
          spans_pack_of_lt (Nat.lt_succ_self _), append_nil]
      case isFalse none =>
        rw [not_not.mp none]
        exact spans_pack_of_lt (Nat.lt_succ_self _)
    | succ place =>
      rcases @induction (index + 1) _ place member with ⟨next, found, prompt, grown, covered⟩
      refine ⟨next, found, prompt, grown, ?_⟩
      rw [Nat.add_right_comm] at covered
      split
      · rw [spans_cons, if_neg (Nat.lt_add_of_pos_right place.succ_pos).ne]
        exact covered
      · exact covered

theorem pack_requests : ∀ slice ∈ (pack index budget sequences).1,
      ∃ place, slice.sequenceIndex = index + place ∧ (sequences.map (·.request))[place]? =
        some (slice.requestId, slice.requestGeneration) := by
  induction sequences generalizing index budget with
  | nil => simp [pack]
  | cons sequence rest induction =>
    have later : ∀ slice ∈ (pack (index + 1) (budget - min sequence.remaining budget) rest).1,
        ∃ place, slice.sequenceIndex = index + place ∧
          ((sequence :: rest).map (·.request))[place]? =
            some (slice.requestId, slice.requestGeneration) := by
      intro slice inside
      rcases induction slice inside with ⟨place, _, found⟩
      exact ⟨place + 1, by omega, found⟩
    rw [pack_cons]
    split
    · exact forall_mem_cons.mpr ⟨⟨0, rfl, rfl⟩, later⟩
    · exact later

/-! ## Accepted inputs -/

/-- The sequences `compile` accepts. -/
structure Ready (sequences : List Sequence) : Prop where
  nonempty : sequences ≠ []
  bounded : sequences.length ≤ 4096
  distinct : (sequences.map (·.requestId)).Nodup
  valid : ∀ sequence ∈ sequences, ¬sequence.Invalid

theorem checkSequences_ok
    (distinct : (sequences.map (·.requestId) ++ requestIds).Nodup)
    (valid : ∀ sequence ∈ sequences, ¬sequence.Invalid) :
    checkSequences requestIds sequences = .ok () := by
  induction sequences generalizing requestIds with
  | nil => rfl
  | cons _ _ induction =>
    rw [map_cons, cons_append, ← perm_middle.nodup_iff] at distinct
    rw [checkSequences, if_neg (valid _ mem_cons_self), if_neg,
      induction distinct (forall_mem_cons.mp valid).2]
    exact (nodup_cons.mp distinct.of_append_right).1

theorem Ready.filled (ready : Ready sequences) : Ready (filled budget sequences) := by
  have ids := @map_filled budget sequences _ (·.requestId) fun _ _ => rfl
  have sizes := congrArg length ids
  rw [length_map, length_map] at sizes
  constructor
  · intro empty
    rw [empty] at sizes
    exact ready.nonempty (length_eq_zero_iff.mp sizes.symm)
  · rw [sizes]
    exact ready.bounded
  · rw [ids]
    exact ready.distinct
  · have valid := ready.valid
    clear ready ids sizes
    induction sequences generalizing budget with
    | nil => exact valid
    | cons _ _ induction =>
      rcases forall_mem_cons.mp valid with ⟨first, others⟩
      refine forall_mem_cons.mpr ⟨?_, induction others⟩
      simp only [Sequence.Invalid, Sequence.advance, Sequence.remaining] at first ⊢
      omega

theorem pack_eq_nil_iff :
    (pack index budget sequences).1 = [] ↔ total sequences = 0 ∨ budget = 0 := by
  induction sequences generalizing index budget with
  | nil => simp [pack, total]
  | cons _ _ induction =>
    rw [pack_cons, total, map_cons, sum_cons]
    split
    case isTrue =>
      simp only [reduceCtorEq, false_iff]
      omega
    case isFalse =>
      rw [induction, total]
      omega

/-- A chunk completes the prompts if nothing is left after it. -/
theorem projected_eq_iff (ready : Ready sequences) :
    (pack index budget sequences).2 = sequences.map (·.promptTokenCount) ↔
      total sequences ≤ budget := by
  rw [pack_projected, ← @map_filled budget _ _ (·.promptTokenCount)
    (fun _ _ => rfl), map_inj_left, ← Nat.sub_eq_zero_iff_le, ← total_filled, total_eq_zero_iff]
  apply forall₂_congr
  intro sequence member
  have valid := ready.filled.valid sequence member
  simp only [Sequence.Invalid, Sequence.remaining] at valid ⊢
  omega

theorem identityOf_ok {maximum : ℕ} (bounded : sequences.length ≤ 4096) :
    ∃ digest, identityOf planSequence maximum tokenCount publishes sequences = .ok digest := by
  have size : (.u64 planSequence :: .u32 maximum :: .u32 tokenCount :: .u32 publishes.toNat ::
        sequences.flatMap Sequence.fields).length =
      4 + sequences.length * 4 := by
    simp [Sequence.fields]
    omega
  have fits : 4 + sequences.length * 4 ≤ u32Max := by
    unfold u32Max
    omega
  rw [← size] at fits
  rcases @CanonicalHashBuilder.create_digestFields_ok
    "pih:deepseek-chunked-prefill-plan:v1" _ rfl fits with
    ⟨_, created, built⟩
  rw [identityOf, ← size, created]
  exact built

theorem compile_eq (ready : Ready sequences)
    (numbered : number ≠ 0) (nonzero : maximum ≠ 0) :
    if total sequences = 0 then
      compile number maximum sequences = .error (.failedPrecondition
        "DeepSeek chunked prefill is already complete")
    else
      ∃ plan, compile number maximum sequences = .ok plan ∧
        plan.slices = (pack 0 maximum sequences).1 ∧
        plan.tokenCount = (plan.slices.map (·.tokenCount)).sum ∧
        plan.publishesSampledToken = decide (total sequences ≤ maximum) := by
  have input : ¬(number = 0 ∨ maximum = 0 ∨ sequences = [] ∨ 4096 < sequences.length) := by
    simp [numbered, nonzero, ready.nonempty, ready.bounded]
  have checked : checkSequences [] sequences = .ok () :=
    checkSequences_ok (by simpa using ready.distinct) ready.valid
  rw [compile, checked]
  split
  case isTrue complete => exact if_pos (pack_eq_nil_iff.mpr (.inl complete))
  case isFalse open_ =>
    simp only [if_neg (mt pack_eq_nil_iff.mp (not_or.mpr ⟨open_, nonzero⟩))]
    rcases identityOf_ok ready.bounded with ⟨_, built⟩
    rw [built]
    exact ⟨_, rfl, rfl, rfl, decide_eq_decide.mpr (projected_eq_iff ready)⟩

/-! ## The whole prefill -/

/-- The plans needed for a number of tokens. -/
def planCount (tokens maximum : ℕ) : ℕ := (tokens + maximum - 1) / maximum

theorem planCount_eq_zero_iff (nonzero : maximum ≠ 0) :
    planCount tokens maximum = 0 ↔ tokens = 0 := by
  rw [planCount, Nat.div_eq_zero_iff]
  omega

theorem planCount_step (some : tokens ≠ 0) (nonzero : maximum ≠ 0) :
    planCount tokens maximum = planCount (tokens - maximum) maximum + 1 := by
  by_cases more : maximum ≤ tokens
  · unfold planCount
    rw [← Nat.add_div_right _ (Nat.pos_of_ne_zero nonzero)]
    congr 1
    omega
  · rw [(planCount_eq_zero_iff nonzero).mpr (Nat.sub_eq_zero_of_le (Nat.le_of_not_le more))]
    exact Nat.div_eq_of_lt_le (by omega) (by omega)

/-- The plans consume what is left of each prompt exactly once. -/
structure Consumes (maximum : ℕ) (sequences : List Sequence)
    (plans : List Plan) (last : List Sequence) :
    Prop where
  bounded : ∀ plan ∈ plans, plan.slices ≠ [] ∧ plan.tokenCount ≤ maximum ∧
    plan.tokenCount = (plan.slices.map (·.tokenCount)).sum
  owned : ∀ plan ∈ plans, ∀ slice ∈ plan.slices, (sequences.map (·.request))[slice.sequenceIndex]? =
      some (slice.requestId, slice.requestGeneration)
  covered : ∀ place sequence, sequences[place]? = some sequence →
    plans.flatMap (fun plan => spans place plan.slices) =
      range' sequence.consumedTokenCount sequence.remaining
  published : ∀ index plan, plans[index]? = some plan →
    plan.publishesSampledToken = decide (index + 1 = plans.length)
  complete : ∀ number, number ≠ 0 → compile number maximum last = .error (.failedPrecondition
      "DeepSeek chunked prefill is already complete")

theorem prefill_consumes (ready : Ready sequences)
    (nonzero : maximum ≠ 0) (numbered : ∀ number ∈ numbers, number ≠ 0)
    (count : numbers.length = planCount (total sequences) maximum) :
    ∃ plans last, prefill maximum numbers sequences = .ok (plans, last) ∧
      plans.length = numbers.length ∧
      Consumes maximum sequences plans last := by
  induction numbers generalizing sequences with
  | nil =>
    have complete := (planCount_eq_zero_iff nonzero).mp count.symm
    refine ⟨[], sequences, rfl, rfl, nofun, nofun, ?_, nofun, ?_⟩
    · intro place sequence found
      rw [total_eq_zero_iff.mp complete _ (mem_of_getElem? found)]
      rfl
    · intro number numbered
      simpa only [complete, if_true] using compile_eq ready numbered nonzero
  | cons _ _ induction =>
    have some : total sequences ≠ 0 := by
      intro complete
      rw [(planCount_eq_zero_iff nonzero).mpr complete] at count
      exact Nat.succ_ne_zero _ count
    rcases forall_mem_cons.mp numbered with ⟨first, others⟩
    have compiled := compile_eq ready first nonzero
    rw [if_neg some] at compiled
    rcases compiled with ⟨plan, compiled, slices, tokens, publishes⟩
    have next := @advance_pack maximum sequences []
    rw [nil_append, nil_append, length_nil, ← slices] at next
    rw [planCount_step some nonzero, ← total_filled, length_cons] at count
    rcases induction ready.filled others (Nat.succ_inj.mp count) with
      ⟨plans, last, rest_ok, size, consumes⟩
    refine ⟨plan :: plans, last, ?_, congrArg (· + 1) size, ?_, ?_, ?_, ?_, consumes.complete⟩
    · rw [prefill, compiled]
      dsimp only
      rw [next, rest_ok]
    · refine forall_mem_cons.mpr ⟨⟨?_, ?_, tokens⟩, consumes.bounded⟩
      · rw [slices, Ne, pack_eq_nil_iff]
        exact not_or.mpr ⟨some, nonzero⟩
      · rw [tokens, slices, pack_tokens]
        exact Nat.min_le_right _ _
    · refine forall_mem_cons.mpr ⟨?_, ?_⟩
      · intro slice member
        rw [slices] at member
        rcases pack_requests slice member with ⟨place, position, found⟩
        rw [position, Nat.zero_add]
        exact found
      · have owned := consumes.owned
        rwa [map_filled fun _ _ => rfl] at owned
    · intro place sequence found
      rcases @spans_pack 0 maximum _ _ _ found with ⟨later, reached, prompt, grown, taken⟩
      have valid := ready.filled.valid later (mem_of_getElem? reached)
      rw [flatMap_cons, consumes.covered _ _ reached, slices, ← Nat.zero_add place, taken]
      simp only [Sequence.Invalid, Sequence.remaining, prompt] at valid ⊢
      have join := @range'_append_1 sequence.consumedTokenCount
        (later.consumedTokenCount - sequence.consumedTokenCount)
        (sequence.promptTokenCount - later.consumedTokenCount)
      rw [Nat.add_sub_cancel' grown] at join
      rw [join]
      congr 1
      omega
    · intro index found_plan found
      cases index with
      | zero =>
        cases found
        rw [publishes, decide_eq_decide, length_cons, ← Nat.sub_eq_zero_iff_le, ← total_filled,
          ← planCount_eq_zero_iff nonzero]
        omega
      | succ index =>
        rw [consumes.published index found_plan found, decide_eq_decide, length_cons]
        omega

/--
From the start, the plans cover every prompt from its first to its last token,
only the last one publishes a token, and then the prefill is complete.
-/
theorem prefill_consumes_prompts_once (sequences : List Sequence) (maximum : ℕ) (numbers : List ℕ)
    (nonempty : sequences ≠ []) (bounded : sequences.length ≤ 4096)
    (distinct : (sequences.map (·.requestId)).Nodup)
    (valid : ∀ sequence ∈ sequences, sequence.requestId ≠ 0 ∧
      sequence.requestGeneration ≠ 0 ∧ sequence.promptTokenCount ≠ 0)
    (fresh : ∀ sequence ∈ sequences, sequence.consumedTokenCount = 0)
    (nonzero : maximum ≠ 0) (numbered : ∀ number ∈ numbers, number ≠ 0)
    (count : numbers.length = planCount (total sequences) maximum) :
    ∃ plans last, prefill maximum numbers sequences = .ok (plans, last) ∧
      plans.length = planCount (total sequences) maximum ∧
      Consumes maximum sequences plans last := by
  rw [← count]
  refine prefill_consumes ⟨nonempty, bounded, distinct, ?_⟩ nonzero numbered count
  intro sequence member
  rw [Sequence.Invalid, fresh _ member]
  rcases valid _ member with ⟨id, generation, prompt⟩
  simp [id, generation, prompt]

theorem prefill_consumes_two_prompts : ∃ plans last, prefill 4 [7, 8] [⟨1, 1, 3, 0⟩, ⟨2, 1, 5, 0⟩] =
        .ok (plans, last) ∧
      plans.length = planCount (total [⟨1, 1, 3, 0⟩, ⟨2, 1, 5, 0⟩]) 4 ∧
      Consumes 4 [⟨1, 1, 3, 0⟩, ⟨2, 1, 5, 0⟩] plans last :=
  prefill_consumes_prompts_once _ 4 [7, 8] nofun (by decide) (by decide)
    (by decide) (by decide) nofun nofun (by decide)

end ChunkedPrefill

end Pih
