import Pih.Library.Slices
import Pih.Scheduler.ControllerMailbox

/-!
# The controller request arena

The payload of a request is copied into a fixed arena when it is submitted
and stays there until the request is finished.  A slot is free, published by
a submitter or claimed by the controller.  All slots have prompt regions of
one width in a single token buffer, and a request view points into it.

Floating-point sampling parameters are represented by their IEEE 754 bits;
the comparisons below are those of the source, read on the bits.
-/

namespace Pih

inductive ControllerSamplingMode where
  | greedy
  | stochastic
deriving DecidableEq, Repr

/-- The value of the enumerator, as the payload digest encodes it. -/
def ControllerSamplingMode.code : ControllerSamplingMode → ℕ
  | .greedy => 0
  | .stochastic => 1

namespace Float32Bits

def zero : ℕ := 0

def negativeZero : ℕ := 0x80000000

def one : ℕ := 0x3f800000

def two : ℕ := 0x40000000

/-- The exponent is not the one of infinities and NaNs. -/
def isFinite (bits : ℕ) : Bool := (bits / 0x800000) % 256 ≠ 255

/-- Below or equal to zero, for a finite value. -/
def nonpositive (bits : ℕ) : Bool := bits = zero ∨ bits ≥ negativeZero

end Float32Bits

structure ControllerRequestSampling where
  mode : ControllerSamplingMode := .greedy
  temperature : ℕ := Float32Bits.zero
  topP : ℕ := Float32Bits.one
  topK : Option ℕ := none
  effectiveSeed : ℕ := 0
  sampleOrdinal : ℕ := 0
  minimumNewTokens : ℕ := 0
  logprobsEnabled : Bool := false
  topLogprobsCount : ℕ := 0
  stopTokenIds : Vector ℕ 16 := Vector.replicate 16 0
  stopTokenCount : ℕ := 0
deriving DecidableEq

namespace ControllerRequestSampling

def kMaximumStopTokenIds : ℕ := 16

/-- The loop over the stop-token array from `index` on. -/
def validateStopTokens (count : ℕ) : ℕ → List ℕ → List ℕ → Result Unit
  | _, _, [] => .ok ()
  | index, previous, token :: rest =>
    if index ≥ count then
      if token ≠ 0 then
        .error (.invalidArgument "controller stop-token descriptor tail is not canonical")
      else validateStopTokens count (index + 1) (previous ++ [token]) rest
    else if token ≥ kVocabularySize then
      .error (.invalidArgument "controller stop-token id is outside the vocabulary")
    else if token ∈ previous then
      .error (.invalidArgument "controller stop-token descriptor contains duplicates")
    else validateStopTokens count (index + 1) (previous ++ [token]) rest

variable (sampling : ControllerRequestSampling)

/-- The sampling settings fit their mode. -/
def validateMode : Result Unit :=
  match sampling.mode with
  | .greedy =>
    if (sampling.temperature ≠ Float32Bits.zero ∧ sampling.temperature ≠ Float32Bits.negativeZero) ∨
        sampling.topP ≠ Float32Bits.one ∨ sampling.topK.isSome then
      .error (.invalidArgument "controller greedy sampling parameters conflict")
    else .ok ()
  | .stochastic =>
    if ¬ Float32Bits.isFinite sampling.temperature ∨ Float32Bits.nonpositive sampling.temperature ∨
        sampling.temperature > Float32Bits.two ∨
        ¬ Float32Bits.isFinite sampling.topP ∨
        Float32Bits.nonpositive sampling.topP ∨
        sampling.topP > Float32Bits.one ∨
        sampling.topK.any (fun topK => topK = 0 ∨ topK > kVocabularySize)
        then
      .error (.invalidArgument "controller stochastic sampling parameters are invalid")
    else .ok ()

def validate (maximumNewTokens : ℕ) : Result Unit :=
  if sampling.sampleOrdinal ≠ 0 ∨ sampling.minimumNewTokens > maximumNewTokens ∨
      sampling.topLogprobsCount > 20 ∨
      (¬ sampling.logprobsEnabled ∧ sampling.topLogprobsCount ≠ 0) ∨
      sampling.stopTokenCount > kMaximumStopTokenIds then
    .error (.invalidArgument "controller request sampling descriptor is invalid")
  else
    match validateStopTokens sampling.stopTokenCount 0 [] sampling.stopTokenIds.toList with
    | .error status => .error status
    | .ok () => sampling.validateMode

/-- The stop tokens in use. -/
def stopTokens : List ℕ := sampling.stopTokenIds.toList.take sampling.stopTokenCount

end ControllerRequestSampling

open List

/-- The pieces that the payload digest feeds to the hasher, in order. -/
def controllerRequestPayloadPieces (requestGeneration : ℕ)
    (promptTokenIds : List ℕ) (maximumNewTokens : ℕ)
    (sampling : ControllerRequestSampling) : List (List UInt8) :=
  [asciiBytes "pih-controller-request-v1", u64Bytes requestGeneration,
    u32Bytes promptTokenIds.length,
    u32Bytes maximumNewTokens,
    u32Bytes sampling.mode.code,
    u32Bytes sampling.temperature,
    u32Bytes sampling.topP,
    u32Bytes (if sampling.topK.isSome then 1 else 0),
    u32Bytes (sampling.topK.getD 0),
    u64Bytes sampling.effectiveSeed,
    u64Bytes sampling.sampleOrdinal,
    u32Bytes sampling.minimumNewTokens,
    u32Bytes (if sampling.logprobsEnabled then 1 else 0),
    u32Bytes sampling.topLogprobsCount,
    u32Bytes sampling.stopTokenCount] ++
    (sampling.stopTokens.map u32Bytes ++ promptTokenIds.map u32Bytes)

def controllerRequestPayloadDigest (requestGeneration : ℕ)
    (promptTokenIds : List ℕ) (maximumNewTokens : ℕ)
    (sampling : ControllerRequestSampling) : Result Sha256Digest :=
  if requestGeneration = 0 ∨ promptTokenIds.length = 0 ∨
      promptTokenIds.length > u32Max ∨ maximumNewTokens = 0 ∨
      ¬ Result.isOk (sampling.validate maximumNewTokens) then
    .error (.invalidArgument "controller request digest input is invalid")
  else
    Sha256.ofPieces (controllerRequestPayloadPieces requestGeneration promptTokenIds
        maximumNewTokens sampling)

structure ControllerRequestArenaLimits where
  maximumRequests : ℕ
  maximumPromptTokensPerRequest : ℕ
  maximumContextTokens : ℕ
deriving DecidableEq

/-- Names a published payload. -/
structure ControllerRequestReceipt where
  slotIndex : ℕ
  slotGeneration : ℕ
  requestGeneration : ℕ
  payloadDigest : Sha256Digest
deriving DecidableEq

/-- A part of the arena's token buffer. -/
structure TokenSpan where
  offset : ℕ
  size : ℕ
deriving DecidableEq

/-- A claimed payload as the runtime sees it. -/
structure ControllerRequestView where
  slotIndex : ℕ := 0
  slotGeneration : ℕ := 0
  requestGeneration : ℕ := 0
  promptTokenIds : TokenSpan := ⟨0, 0⟩
  maximumNewTokens : ℕ := 0
  sampling : ControllerRequestSampling := {}
  payloadDigest : Sha256Digest := .zero
deriving DecidableEq

inductive RequestSlotState where
  | free
  | published
  | claimed
deriving DecidableEq, Repr

/-- A payload slot. -/
structure RequestSlot where
  state : RequestSlotState := .free
  generation : ℕ := 0
  requestGeneration : ℕ := 0
  promptTokens : ℕ := 0
  maximumNewTokens : ℕ := 0
  sampling : ControllerRequestSampling := {}
  payloadDigest : Sha256Digest := .zero
deriving DecidableEq

/-- The payload slots and their prompt area. -/
structure ControllerRequestArena where
  limits : ControllerRequestArenaLimits
  tokens : List ℕ
  slots : List RequestSlot
deriving DecidableEq

namespace ControllerRequestArena

/-- The largest number of 32-bit tokens that a vector can hold. -/
def maximumVectorTokens : ℕ := 2305843009213693951

def create (limits : ControllerRequestArenaLimits) : Result ControllerRequestArena :=
  if limits.maximumRequests = 0 ∨ limits.maximumPromptTokensPerRequest = 0 ∨
      limits.maximumContextTokens = 0 ∨
      limits.maximumPromptTokensPerRequest > limits.maximumContextTokens then
    .error (.invalidArgument "controller request arena limits are invalid")
  else
    match checkedMulU64 limits.maximumRequests limits.maximumPromptTokensPerRequest with
    | .error _ => .error (.resourceExhausted "controller request token arena is too large")
    | .ok capacity =>
      if capacity > maximumVectorTokens then
        .error (.resourceExhausted "controller request token arena is too large")
      else
        .ok { limits, tokens := replicate capacity 0, slots := replicate limits.maximumRequests {} }

variable (arena : ControllerRequestArena)

/-- The start of a slot's region in the token buffer. -/
def promptOffset (index : ℕ) : ℕ := index * arena.limits.maximumPromptTokensPerRequest

/-- The tokens that a span of a request view points to now. -/
def read (span : TokenSpan) : List ℕ := slice arena.tokens span.offset span.size

def isFreeSlot (slot : RequestSlot) : Bool := slot.state = .free

variable (requestGeneration : ℕ)

/-- The slot holds a request of this generation. -/
def residentWith (slot : RequestSlot) : Bool :=
  slot.state ≠ .free ∧ slot.requestGeneration = requestGeneration

/-- The slot was published for this generation and not yet claimed. -/
def publishedWith (slot : RequestSlot) : Bool :=
  slot.state = .published ∧ slot.requestGeneration = requestGeneration

variable (promptTokenIds : List ℕ) (maximumNewTokens : ℕ) (sampling : ControllerRequestSampling)

/-- The request fits the token profile of the arena. -/
def profileAccepts : Bool := ¬ (requestGeneration = 0 ∨ promptTokenIds.length = 0 ∨
    promptTokenIds.length > arena.limits.maximumPromptTokensPerRequest ∨
    maximumNewTokens = 0 ∨
    promptTokenIds.length > arena.limits.maximumContextTokens -
      min maximumNewTokens arena.limits.maximumContextTokens ∨
    maximumNewTokens > arena.limits.maximumContextTokens ∨
    ¬ Result.isOk (sampling.validate maximumNewTokens))

/-- Store a payload in a free slot. -/
def publish : ControllerRequestArena × Result ControllerRequestReceipt :=
  if ¬ arena.profileAccepts requestGeneration promptTokenIds maximumNewTokens sampling then
    (arena, .error (.invalidArgument "controller request exceeds its token profile"))
  else if promptTokenIds.any (fun token => token ≥ kVocabularySize) then
    (arena, .error (.invalidArgument "controller request has invalid token id"))
  else
    match controllerRequestPayloadDigest requestGeneration promptTokenIds
        maximumNewTokens sampling with
    | .error status => (arena, .error status)
    | .ok digest =>
      if arena.slots.any (residentWith requestGeneration) then
        (arena, .error (.failedPrecondition "request generation is already resident"))
      else
        match arena.slots.findIdx? isFreeSlot with
        | none => (arena, .error (.resourceExhausted "controller request arena is full"))
        | some index =>
          let generation := (arena.slots.getD index {}).generation
          if generation = u64Max then
            (arena, .error (.failedPrecondition "controller request slot generation wrapped"))
          else
            let slot : RequestSlot :=
              { state := .published
                generation := generation + 1
                requestGeneration
                promptTokens := promptTokenIds.length
                maximumNewTokens
                sampling
                payloadDigest := digest }
            ({ arena with
                tokens := overwrite arena.tokens (arena.promptOffset index) promptTokenIds
                slots := arena.slots.set index slot },
              .ok
                { slotIndex := index
                  slotGeneration := slot.generation
                  requestGeneration
                  payloadDigest := digest })

/-- The view of the request in a slot. -/
def view (index : ℕ) (slot : RequestSlot) : ControllerRequestView where
  slotIndex := index
  slotGeneration := slot.generation
  requestGeneration := slot.requestGeneration
  promptTokenIds := ⟨arena.promptOffset index, slot.promptTokens⟩
  maximumNewTokens := slot.maximumNewTokens
  sampling := slot.sampling
  payloadDigest := slot.payloadDigest

def setState (index : ℕ) (slot : RequestSlot) (state : RequestSlotState) : ControllerRequestArena :=
  { arena with slots := arena.slots.set index { slot with state } }

/-- Claim the payload that a command names. -/
def claim (payloadDigest : Sha256Digest) : ControllerRequestArena × Result ControllerRequestView :=
  match arena.slots.findIdx? (publishedWith requestGeneration) with
  | none => (arena, .error (.failedPrecondition "controller request is not published"))
  | some index =>
    let slot := arena.slots.getD index {}
    if slot.payloadDigest ≠ payloadDigest then
      (arena, .error (.failedPrecondition "controller request digest drifted"))
    else (arena.setState index slot .claimed, .ok (arena.view index slot))

/-- Zero the region of a slot and erase its request; the generation stays. -/
def clearSlot (index : ℕ) : ControllerRequestArena :=
  { arena with
    tokens := overwrite arena.tokens (arena.promptOffset index)
        (replicate arena.limits.maximumPromptTokensPerRequest 0)
    slots := arena.slots.set index { generation := (arena.slots.getD index {}).generation } }

/-- Withdraw a payload by its receipt. -/
def rollbackPublished (receipt : ControllerRequestReceipt) : ControllerRequestArena × Result Unit :=
  match arena.slots[receipt.slotIndex]? with
  | none => (arena, .error (.invalidArgument "controller request receipt index is invalid"))
  | some slot =>
    if slot.state ≠ .published ∨ slot.generation ≠ receipt.slotGeneration ∨
        slot.requestGeneration ≠ receipt.requestGeneration ∨
        slot.payloadDigest ≠ receipt.payloadDigest then
      (arena, .error (.failedPrecondition "controller request receipt is stale"))
    else (arena.clearSlot receipt.slotIndex, .ok ())

def releaseClaimed (slotIndex slotGeneration : ℕ) : ControllerRequestArena × Result Unit :=
  match arena.slots[slotIndex]? with
  | none => (arena, .error (.invalidArgument "controller request slot index is invalid"))
  | some slot =>
    if slot.state ≠ .claimed ∨ slot.generation ≠ slotGeneration then
      (arena, .error (.failedPrecondition "controller request claim is stale"))
    else (arena.clearSlot slotIndex, .ok ())

def publishedCount : ℕ := arena.slots.countP fun slot => slot.state = .published

def claimedCount : ℕ := arena.slots.countP fun slot => slot.state = .claimed

/-! ## What the operations do -/

/-- A successful publication. -/
structure PublishedRequest (arena next : ControllerRequestArena) (requestGeneration : ℕ)
    (promptTokenIds : List ℕ) (maximumNewTokens : ℕ)
    (sampling : ControllerRequestSampling)
    (receipt : ControllerRequestReceipt) : Prop where
  accepted : arena.profileAccepts requestGeneration promptTokenIds maximumNewTokens sampling = true
  tokens : ∀ token ∈ promptTokenIds, token < kVocabularySize
  digest : controllerRequestPayloadDigest requestGeneration promptTokenIds
      maximumNewTokens sampling = .ok receipt.payloadDigest
  fresh : ∀ slot ∈ arena.slots, slot.state ≠ .free → slot.requestGeneration ≠ requestGeneration
  free : ∃ old, arena.slots[receipt.slotIndex]? = some old ∧ old.state = .free
  requestGeneration_eq : receipt.requestGeneration = requestGeneration
  next_eq :
    next =
      { arena with
        tokens := overwrite arena.tokens (arena.promptOffset receipt.slotIndex) promptTokenIds
        slots := arena.slots.set receipt.slotIndex
          { state := .published
            generation := receipt.slotGeneration
            requestGeneration
            promptTokens := promptTokenIds.length
            maximumNewTokens
            sampling
            payloadDigest := receipt.payloadDigest } }

theorem publish_cases : (∃ status, arena.publish requestGeneration promptTokenIds maximumNewTokens
        sampling = (arena, .error status)) ∨
    ∃ next receipt, arena.publish requestGeneration promptTokenIds maximumNewTokens
        sampling = (next, .ok receipt) ∧
      PublishedRequest arena next requestGeneration promptTokenIds
        maximumNewTokens sampling receipt := by
  unfold publish
  split
  · exact .inl ⟨_, rfl⟩
  rename_i accepted
  split
  · exact .inl ⟨_, rfl⟩
  rename_i vocabulary
  split
  · exact .inl ⟨_, rfl⟩
  rename_i digest digested
  split
  · exact .inl ⟨_, rfl⟩
  rename_i fresh
  split
  · exact .inl ⟨_, rfl⟩
  rename_i found
  dsimp only
  split
  · exact .inl ⟨_, rfl⟩
  refine .inr ⟨_, _, rfl, ?_⟩
  rcases findIdx?_eq_some_iff_getElem.mp found with ⟨inside, free, -⟩
  exact
    { accepted := not_not.mp accepted
      tokens := by
        intro token member
        by_contra large
        apply vocabulary
        rw [any_eq_true]
        exact ⟨token, member, decide_eq_true (Nat.le_of_not_lt large)⟩
      digest := digested
      fresh := by
        intro slot member used same
        apply fresh
        rw [any_eq_true]
        exact ⟨slot, member, by simp [residentWith, used, same]⟩
      free := ⟨_, getElem?_eq_getElem inside, of_decide_eq_true free⟩
      requestGeneration_eq := rfl
      next_eq := rfl }

/-- Every outcome of a claim. -/
theorem claim_cases (payloadDigest : Sha256Digest) :
    ((∃ status, arena.claim requestGeneration payloadDigest = (arena, .error status)) ∧
      ((∀ slot ∈ arena.slots, ¬ publishedWith requestGeneration slot = true) ∨
        ∃ slot ∈ arena.slots, publishedWith requestGeneration slot = true ∧
          slot.payloadDigest ≠ payloadDigest)) ∨
    ∃ index slot, arena.slots[index]? = some slot ∧ slot.state = .published ∧
      slot.requestGeneration = requestGeneration ∧
      slot.payloadDigest = payloadDigest ∧
      arena.claim requestGeneration payloadDigest =
        (arena.setState index slot .claimed, .ok (arena.view index slot)) := by
  unfold claim
  split
  case h_1 missing =>
    refine .inl ⟨⟨_, rfl⟩, .inl ?_⟩
    intro slot member published
    have absent := findIdx?_eq_none_iff.mp missing slot member
    rw [published] at absent
    cases absent
  rename_i index found
  rcases findIdx?_eq_some_iff_getElem.mp found with ⟨inside, published, -⟩
  have value : arena.slots.getD index {} = arena.slots[index] := by simp [inside]
  rw [value]
  dsimp only
  split
  case isTrue drifted => exact .inl ⟨⟨_, rfl⟩, .inr ⟨_, getElem_mem inside, published, drifted⟩⟩
  rename_i same
  have parts : arena.slots[index].state = .published ∧
      arena.slots[index].requestGeneration = requestGeneration := by
    simpa [publishedWith] using published
  exact .inr ⟨index, _, getElem?_eq_getElem inside, parts.1, parts.2, not_not.mp same, rfl⟩

theorem rollbackPublished_cases (receipt : ControllerRequestReceipt) :
    (∃ status, arena.rollbackPublished receipt = (arena, .error status) ∧
      ∀ slot, arena.slots[receipt.slotIndex]? = some slot →
        ¬ (slot.state = .published ∧ slot.generation = receipt.slotGeneration ∧
          slot.requestGeneration = receipt.requestGeneration ∧
          slot.payloadDigest = receipt.payloadDigest)) ∨
    ∃ slot, arena.slots[receipt.slotIndex]? = some slot ∧ slot.state = .published ∧
      slot.requestGeneration = receipt.requestGeneration ∧
      arena.rollbackPublished receipt = (arena.clearSlot receipt.slotIndex, .ok ()) := by
  unfold rollbackPublished
  cases arena.slots[receipt.slotIndex]? with
  | none => exact .inl ⟨_, rfl, nofun⟩
  | some slot =>
    dsimp only
    split
    case isTrue stale =>
      refine .inl ⟨_, rfl, ?_⟩
      rintro _ ⟨⟩ good
      rcases stale with state | generation | request | digest
      · exact state good.1
      · exact generation good.2.1
      · exact request good.2.2.1
      · exact digest good.2.2.2
    case isFalse valid =>
      simp only [not_or, not_not] at valid
      exact .inr ⟨slot, rfl, valid.1, valid.2.2.1, rfl⟩

theorem releaseClaimed_cases (slotIndex slotGeneration : ℕ) :
    (∃ status, arena.releaseClaimed slotIndex slotGeneration = (arena, .error status) ∧
      ∀ slot, arena.slots[slotIndex]? = some slot →
        ¬ (slot.state = .claimed ∧ slot.generation = slotGeneration)) ∨
    ∃ slot, arena.slots[slotIndex]? = some slot ∧ slot.state = .claimed ∧
      slot.generation = slotGeneration ∧
      arena.releaseClaimed slotIndex slotGeneration = (arena.clearSlot slotIndex, .ok ()) := by
  unfold releaseClaimed
  cases arena.slots[slotIndex]? with
  | none => exact .inl ⟨_, rfl, nofun⟩
  | some slot =>
    dsimp only
    split
    case isTrue stale =>
      refine .inl ⟨_, rfl, ?_⟩
      rintro _ ⟨⟩ good
      rcases stale with state | generation
      · exact state good.1
      · exact generation good.2
    case isFalse valid =>
      simp only [not_or, not_not] at valid
      exact .inr ⟨slot, rfl, valid.1, valid.2, rfl⟩

end ControllerRequestArena

end Pih
