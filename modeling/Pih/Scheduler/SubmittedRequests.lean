import Pih.Library.Slices
import Pih.Scheduler.HaltedPlans
import Pih.Scheduler.RequestBookkeeping

/-!
# What was submitted is what is stored

Every payload in the arena is the one that its submitter gave, token for
token, so a live sequence works on the request as it was submitted.  The runs
considered here submit no request generation twice.
-/

namespace Pih

open ControllerRequestArena ControllerRuntime List Submission

namespace ControllerRequestArena

/-- Every slot has its own region for the prompt. -/
def Sized (arena : ControllerRequestArena) : Prop := arena.tokens.length =
    arena.slots.length * arena.limits.maximumPromptTokensPerRequest

/-- The prompts change at most in the region of one slot. -/
structure Rewrites (arena next : ControllerRequestArena) (index : ℕ) : Prop where
  length : next.tokens.length = arena.tokens.length
  apart : ∀ other, other ≠ index → ∀ size ≤ arena.limits.maximumPromptTokensPerRequest,
    slice next.tokens (arena.promptOffset other) size =
      slice arena.tokens (arena.promptOffset other) size

section

variable {next : ControllerRequestArena}

theorem rewrites_same (tokens : next.tokens = arena.tokens) : Rewrites arena next index where
  length := by rw [tokens]
  apart := by
    intro other _ size _
    rw [tokens]

theorem rewrites_overwrite (sized : arena.Sized) (inside : index < arena.slots.length)
    (fits : patch.length ≤ arena.limits.maximumPromptTokensPerRequest)
    (tokens : next.tokens = overwrite arena.tokens (arena.promptOffset index) patch) :
    Rewrites arena next index := by
  have bounded : arena.promptOffset index + patch.length ≤ arena.tokens.length := by
    rw [sized]
    exact region_inside inside _ fits
  constructor
  · rw [tokens, length_overwrite bounded]
  · intro other different size small
    rw [tokens]
    exact slice_overwrite_disjoint bounded (regions_disjoint different _ small fits)

theorem Rewrites.trans (first : Rewrites arena middle index) (second : Rewrites middle next index)
    (limits : middle.limits = arena.limits) : Rewrites arena next index where
  length := second.length.trans first.length
  apart := by
    intro other different size small
    have later := second.apart other different size (limits ▸ small)
    unfold promptOffset at later
    rw [limits] at later
    exact later.trans (first.apart other different size small)

theorem rewrites_publish (sized : arena.Sized) {maximum : ℕ} {sampling : ControllerRequestSampling}
    (published : PublishedRequest arena next generation prompt maximum sampling receipt)
    (fits : prompt.length ≤ arena.limits.maximumPromptTokensPerRequest) :
    Rewrites arena next receipt.slotIndex := by
  rcases published.free with ⟨_, found, -⟩
  refine rewrites_overwrite sized (List.getElem_of_getElem? found).1 fits ?_
  rw [published.next_eq]

theorem rewrites_clearSlot (sized : arena.Sized) (inside : index < arena.slots.length) :
    Rewrites arena (arena.clearSlot index) index :=
  rewrites_overwrite sized inside (Nat.le_of_eq length_replicate) rfl

theorem Writes.sized (writes : Writes arena next index old new)
    (rewrites : Rewrites arena next index) (sized : arena.Sized) : next.Sized := by
  unfold Sized
  rw [rewrites.length, writes.length, writes.limits]
  exact sized

end

end ControllerRequestArena

/-! ## Stored requests -/

/-- The checks that every accepted request passed. -/
structure Submission.Valid (submission : Submission) : Prop where
  prompt : submission.promptTokenIds ≠ []
  vocabulary : ∀ token ∈ submission.promptTokenIds, token < kVocabularySize
  maximum : submission.maximumNewTokens ≠ 0

namespace ControllerRequestArena

/-- The payload in a slot is the submitted one. -/
structure Stores (arena : ControllerRequestArena) (index : ℕ) (slot : RequestSlot)
    (submission : Submission) : Prop where
  generation : slot.requestGeneration = submission.requestGeneration
  prompt : slot.promptTokens = submission.promptTokenIds.length
  tokens : slice arena.tokens (arena.promptOffset index) slot.promptTokens =
      submission.promptTokenIds
  maximum : slot.maximumNewTokens = submission.maximumNewTokens
  sampling : slot.sampling = submission.sampling
  fits : slot.promptTokens ≤ arena.limits.maximumPromptTokensPerRequest

/-- Every payload in the arena was submitted. -/
structure StoredRequests (submitted : List Submission) (arena : ControllerRequestArena) : Prop where
  sized : arena.Sized
  stored : ∀ (index : ℕ) (slot : RequestSlot),
    arena.slots[index]? = some slot → slot.state ≠ .free →
    ∃ submission ∈ submitted, arena.Stores index slot submission

section

variable {arena next : ControllerRequestArena} {submitted : List Submission}

theorem PublishedRequest.fits {maximum : ℕ} {sampling : ControllerRequestSampling}
    (published : PublishedRequest arena next generation prompt maximum sampling receipt) :
    prompt.length ≤ arena.limits.maximumPromptTokensPerRequest ∧
      Valid ⟨generation, prompt, maximum, sampling⟩ := by
  have accepted := published.accepted
  simp only [profileAccepts, decide_eq_true_eq, not_or, Nat.not_lt] at accepted
  refine ⟨accepted.2.2.1, ?_, published.tokens, accepted.2.2.2.1⟩
  exact fun empty => accepted.2.1 (length_eq_zero_iff.mpr empty)

theorem Stores.keep (rewrites : Rewrites arena next index)
    (limits : next.limits = arena.limits) (different : other ≠ index)
    (stores : arena.Stores other slot submission) :
    next.Stores other slot submission where
  __ := stores
  tokens := by
    have same := rewrites.apart other different _ stores.fits
    unfold promptOffset
    rw [limits]
    exact same.trans stores.tokens
  fits := by
    rw [limits]
    exact stores.fits

section

variable (requests : StoredRequests submitted arena)

include requests

/-- One slot was written; the others store what they stored. -/
theorem StoredRequests.write (writes : Writes arena next index old new)
    (rewrites : Rewrites arena next index) (more : submitted ⊆ later)
    (own : new.state ≠ .free → ∃ submission ∈ later, next.Stores index new submission) :
    StoredRequests later next where
  sized := writes.sized rewrites requests.sized
  stored := by
    intro other slot found used
    rcases writes.iff.mp found with ⟨rfl, rfl⟩ | ⟨different, before⟩
    · exact own used
    rcases requests.stored other slot before used with ⟨submission, submittedBefore, stores⟩
    exact ⟨submission, more submittedBefore, stores.keep rewrites writes.limits different⟩

theorem StoredRequests.clearSlot (found : arena.slots[index]? = some old) :
    StoredRequests submitted (arena.clearSlot index) :=
  requests.write (writes_clearSlot found) (rewrites_clearSlot requests.sized
      (List.getElem_of_getElem? found).1)
    (fun _ member => member) (fun used => (used rfl).elim)

theorem StoredRequests.setState (found : arena.slots[index]? = some old)
    (used : old.state ≠ .free) (state : RequestSlotState) :
    StoredRequests submitted (arena.setState index old state) := by
  refine requests.write (writes_setState found state) (rewrites_same rfl)
    (fun _ member => member) fun _ => ?_
  rcases requests.stored index old found used with ⟨submission, member, stores⟩
  exact ⟨submission, member, stores.generation, stores.prompt,
    stores.tokens, stores.maximum, stores.sampling, stores.fits⟩

theorem StoredRequests.publish {maximum : ℕ} {sampling : ControllerRequestSampling}
    (published : PublishedRequest arena next generation prompt maximum sampling receipt) :
    StoredRequests (submitted ++ [⟨generation, prompt, maximum, sampling⟩])
      next := by
  rcases published.writes with ⟨_, -, writes⟩
  have fits := published.fits.1
  refine requests.write writes (rewrites_publish requests.sized published fits)
    (subset_append_left _ _) fun _ => ?_
  refine ⟨_, mem_append_right _ (.head _), rfl, rfl, ?_, rfl, rfl, ?_⟩
  · have bounded : arena.promptOffset receipt.slotIndex + prompt.length ≤ arena.tokens.length := by
      rw [requests.sized]
      exact region_inside (List.getElem_of_getElem? writes.found).1 _ fits
    have tokens : next.tokens = overwrite arena.tokens (arena.promptOffset receipt.slotIndex)
        prompt := by
      rw [published.next_eq]
    unfold promptOffset at tokens bounded ⊢
    rw [writes.limits, tokens]
    exact slice_overwrite_self bounded
  · rw [writes.limits]
    exact fits

/-- A publication that was rolled back at once. -/
theorem StoredRequests.withdraw {maximum : ℕ} {sampling : ControllerRequestSampling}
    (published : PublishedRequest arena next generation prompt maximum sampling receipt) :
    StoredRequests submitted (next.clearSlot receipt.slotIndex) := by
  rcases published.writes with ⟨_, -, writes⟩
  have rewrites := rewrites_publish requests.sized published published.fits.1
  have inside := (List.getElem_of_getElem? writes.self).1
  refine requests.write (writes.trans (writes_clearSlot writes.self))
    (rewrites.trans ?_ writes.limits) (fun _ member => member)
    (fun used => (used rfl).elim)
  exact rewrites_clearSlot (writes.sized rewrites requests.sized) inside

end

end

end ControllerRequestArena

/-! ## The ledger of a run -/

namespace ControllerRuntime

open ControllerRequestArena (StoredRequests)

/-- No request generation is submitted a second time. -/
def submittedOnce (history : ControllerHistory) (_ : ControllerRuntime)
    (call : ControllerCall) : Prop :=
  match call.operation with
  | .submitAdmit generation _ _ _ => generation ∉ (submissions history).map requestGeneration
  | _ => True

instance (history : ControllerHistory) (runtime : ControllerRuntime) (call : ControllerCall) :
    Decidable (submittedOnce history runtime call) := by
  unfold submittedOnce
  split <;> infer_instance

/-- Submissions are distinct, valid and stored. -/
structure SubmissionLedger (history : ControllerHistory) (runtime : ControllerRuntime) : Prop where
  once : ((submissions history).map requestGeneration).Nodup
  valid : ∀ submission ∈ submissions history, submission.Valid
  stored : StoredRequests (submissions history) runtime.ingress.requests

/-- The sequence in a slot works on a submitted request. -/
structure WorksOn (arena : ControllerRequestArena) (slot : RuntimeSlot)
    (sequence : ControllerSequence) (submission : Submission) : Prop where
  generation : submission.requestGeneration = sequence.sequenceGeneration
  prompt : submission.promptTokenIds.length = sequence.promptTokenCount
  tokens : arena.read slot.request.promptTokenIds = submission.promptTokenIds
  maximum : slot.request.maximumNewTokens = submission.maximumNewTokens
  sampling : slot.request.sampling = submission.sampling

namespace SubmissionLedger

variable {history : ControllerHistory} {runtime next : ControllerRuntime}

variable (ledger : SubmissionLedger history runtime)

include ledger

/-- A live sequence works on the request that was submitted. -/
theorem worksOn {sequence : ControllerSequence}
    (live : LiveLedger runtime.slots runtime.ingress.requests)
    (isLive : Live runtime.slots index slot sequence) :
    ∃ submission ∈ submissions history,
      WorksOn runtime.ingress.requests slot sequence submission := by
  rcases live.serving index slot sequence isLive with ⟨request, serving⟩
  rcases ledger.stored.stored _ request serving.found (ne_free_of_claimed serving.claimed) with
    ⟨submission, member, stores⟩
  refine ⟨submission, member, ?_, ?_, ?_, ?_, ?_⟩
  · exact stores.generation.symm.trans serving.generation
  · exact stores.prompt.symm.trans serving.prompt
  · rw [serving.view]
    exact stores.tokens
  · rw [serving.view]
    exact stores.maximum
  · rw [serving.view]
    exact stores.sampling

/-- A call without a submission. -/
theorem keep (submitted : submittedBy ⟨runtime, call, next, outcome⟩ = none)
    (stored : StoredRequests (submissions history) next.ingress.requests) :
    SubmissionLedger (history ++ [⟨runtime, call, next, outcome⟩])
      next := by
  have same : submissions (history ++ [⟨runtime, call, next, outcome⟩]) = submissions history := by
    rw [submissions_snoc, submitted, Option.toList_none, append_nil]
  constructor
  · rw [same]
    exact ledger.once
  · rw [same]
    exact ledger.valid
  · rw [same]
    exact stored

theorem submit {maximum : ℕ} {sampling : ControllerRequestSampling}
    (fresh : generation ∉ (submissions history).map requestGeneration)
    (submitted : submittedBy ⟨runtime, call, next, outcome⟩ =
        some ⟨generation, prompt, maximum, sampling⟩)
    (published : PublishedRequest runtime.ingress.requests
        next.ingress.requests generation prompt maximum sampling receipt) :
    SubmissionLedger (history ++ [⟨runtime, call, next, outcome⟩])
      next := by
  constructor
  · rw [submissions_snoc, submitted, Option.toList_some, map_append]
    refine nodup_append.mpr ⟨ledger.once, nodup_singleton _, ?_⟩
    intro listed earlier other only same
    rw [same, mem_singleton.mp only] at earlier
    exact fresh earlier
  · rw [submissions_snoc, submitted]
    intro submission member
    rcases mem_append.mp member with earlier | only
    · exact ledger.valid submission earlier
    rw [mem_singleton.mp only]
    exact published.fits.2
  · rw [submissions_snoc, submitted]
    exact ledger.stored.publish published

theorem request (once : submittedOnce history runtime call)
    (transition : RequestTransition runtime call next outcome) :
    SubmissionLedger (history ++ [⟨runtime, call, next, outcome⟩])
      next := by
  have quiet : (∀ command, outcome ≠ .command (.ok command)) →
      submittedBy ⟨runtime, call, next, outcome⟩ = none :=
    fun other => submittedBy_of_outcome other
  cases transition with
  | submitted operation _ published =>
    refine ledger.submit ?_ ?_ published
    · unfold submittedOnce at once
      rw [operation] at once
      exact once
    · simp only [submittedBy, operation]
  | withdrawn published =>
    exact ledger.keep (quiet fun _ same => by cases same) (ledger.stored.withdraw published)
  | abandoned _ _ claimed =>
    have used := ne_free_of_published claimed.published
    refine ledger.keep (quiet fun _ same => by cases same) ?_
    exact (ledger.stored.setState claimed.found used _).clearSlot
      (writes_setState claimed.found _).self
  | rejected _ _ claimed =>
    have used := ne_free_of_published claimed.published
    refine ledger.keep (quiet fun _ same => by cases same) ?_
    exact (ledger.stored.setState claimed.found used _).clearSlot
      (writes_setState claimed.found _).self
  | overflowed _ _ claimed =>
    have used := ne_free_of_published claimed.published
    exact ledger.keep (quiet fun _ same => by cases same)
      (ledger.stored.setState claimed.found used _)
  | admitted _ _ claimed =>
    have used := ne_free_of_published claimed.published
    exact ledger.keep (quiet fun _ same => by cases same)
      (ledger.stored.setState claimed.found used _)
  | finalized _ _ found _ same =>
    exact ledger.keep (quiet fun _ same => by cases same) (ledger.stored.clearSlot found)
  | finalizeStuck _ _ release =>
    refine ledger.keep (quiet fun _ same => by cases same) ?_
    cases release with
    | released found => exact ledger.stored.clearSlot found
    | kept => exact ledger.stored
  | _ => exact ledger.keep (quiet fun _ same => by cases same) ledger.stored

theorem preserved (once : submittedOnce history runtime call)
    (transition : Transition runtime call next outcome) :
    SubmissionLedger (history ++ [⟨runtime, call, next, outcome⟩])
      next := by
  rcases transition.silent_or_request with silent | request
  · refine ledger.keep silent.submitted ?_
    rw [silent.requests]
    exact ledger.stored
  · exact ledger.request once request

end SubmissionLedger

/-! ## Orderly runs -/

/-- The invariants of the runs that submit no generation twice. -/
structure Orderly (history : ControllerHistory) (runtime : ControllerRuntime) : Prop where
  base : runtime.Base
  books : Bookkeeping [] runtime
  halts : HaltsFailed runtime
  ledger : SubmissionLedger history runtime

theorem Fresh.orderly {limits : ControllerRuntimeLimits}
    (fresh : Fresh limits runtime) : Orderly [] runtime where
  base := fresh.base
  books := fresh.bookkeeping
  halts := fun _ => not_halted_of_idle fresh.current
  ledger := by
    refine ⟨nodup_nil, nofun, ?_, ?_⟩
    · unfold Sized
      rw [fresh.requestTokens, fresh.requestSlots, length_replicate, fresh.requestLimits]
    · intro index slot found used
      rw [fresh.requestSlots] at found
      rw [eq_of_mem_replicate (mem_of_getElem? found)] at used
      exact (used rfl).elim

theorem Orderly.preserved {next : ControllerRuntime} (orderly : Orderly history runtime)
    (once : submittedOnce history runtime call)
    (transition : Transition runtime call next outcome) :
    Orderly (history ++ [⟨runtime, call, next, outcome⟩]) next where
  base := orderly.base.preserved transition
  books := orderly.books.preserved transition
  halts := orderly.halts.preserved orderly.base transition
  ledger := orderly.ledger.preserved once transition

section

variable {history : ControllerHistory} {runtime next : ControllerRuntime}

/-! ## Requests and their submissions -/

theorem SubmissionLedger.unique (ledger : SubmissionLedger history runtime)
    (one : first ∈ submissions history) (other : second ∈ submissions history)
    (same : first.requestGeneration = second.requestGeneration) :
    first = second :=
  inj_on_of_nodup_map ledger.once one other same

variable {sequence : ControllerSequence}

section

variable (orderly : Orderly history runtime)

include orderly

/-- The token limit of a live sequence is the submitted one. -/
theorem Orderly.maximum (live : Live runtime.slots index slot sequence)
    (member : submission ∈ submissions history)
    (same : submission.requestGeneration = sequence.sequenceGeneration) :
    slot.request.maximumNewTokens = submission.maximumNewTokens ∧
      submission.maximumNewTokens ≠ 0 := by
  rcases orderly.ledger.worksOn orderly.books.live live with ⟨own, ownMember, works⟩
  have equal := orderly.ledger.unique ownMember member (works.generation.trans same.symm)
  subst equal
  exact ⟨works.maximum, (orderly.ledger.valid own ownMember).maximum⟩

theorem Orderly.live_known (live : Live runtime.slots index slot sequence) :
    sequence.sequenceGeneration ∈ (submissions history).map requestGeneration := by
  rcases orderly.ledger.worksOn orderly.books.live live with ⟨_, member, works⟩
  rw [← works.generation]
  exact mem_map_of_mem member

theorem Orderly.claimed_known (claimed : runtime.ingress.requests.Claimed command index request) :
    command.requestGeneration ∈ (submissions history).map requestGeneration := by
  rcases orderly.ledger.stored.stored index request claimed.found
      (ne_free_of_published claimed.published) with
    ⟨_, member, stores⟩
  rw [← claimed.requestGeneration, stores.generation]
  exact mem_map_of_mem member

/-- A waiting admission has no live sequence. -/
theorem Orderly.live_ne_queued (live : Live runtime.slots index slot sequence)
    (queued : command ∈ runtime.queuedAdmissions) :
    command.requestGeneration ≠ sequence.sequenceGeneration := by
  rcases orderly.books.matched queued with ⟨_, _, claimed, -⟩
  exact (orderly.books.live_ne_claimed claimed live).symm

/-- The sequences of a ready runtime are live. -/
theorem Orderly.live_of_ready (ready : runtime.state = .ready)
    (holding : Holding runtime.slots index slot sequence) :
    Live runtime.slots index slot sequence :=
  ⟨holding, orderly.books.ended ready index slot sequence holding⟩

/-- The other admissions stay in the queue. -/
theorem Orderly.others_wait {taken : ControllerMailbox}
    (steps : runtime.Steps call now command taken) (kind : command.kind = .admission)
    (commands : next.ingress.mailbox.commands = taken.commands) :
    ∀ other ∈ next.queuedAdmissions, other ∈ runtime.queuedAdmissions ∧
      other.requestGeneration ≠ command.requestGeneration := by
  intro other queued
  have split := queuedAdmissions_of_admission steps.took kind commands
  have distinct := orderly.books.queue.distinct
  rw [split, map_cons, nodup_cons] at distinct
  refine ⟨split ▸ .tail _ queued, fun same => distinct.1 ?_⟩
  rw [← same]
  exact mem_map_of_mem queued

end

end

end ControllerRuntime

/-- Induction over the runs that submit no generation twice. -/
theorem ControllerRun.inductOrderly {limits : ControllerRuntimeLimits}
    (once : ∀ history runtime call, allowed history runtime call →
      submittedOnce history runtime call)
    (Invariant : ControllerHistory → ControllerRuntime → Prop)
    (initial : ∀ fresh, Fresh limits fresh → Invariant [] fresh)
    (preserved : ∀ history runtime call next outcome, Orderly history runtime →
      Invariant history runtime →
      allowed history runtime call →
      Transition runtime call next outcome →
      Invariant (history ++ [⟨runtime, call, next, outcome⟩]) next)
    (run : ControllerRun limits allowed history runtime) :
    Orderly history runtime ∧ Invariant history runtime := by
  refine run.induct (fun history runtime =>
      Orderly history runtime ∧ Invariant history runtime) ?_ ?_
  · exact fun start fresh => ⟨fresh.orderly, initial start fresh⟩
  · rintro history runtime call next outcome - ⟨orderly, holds⟩ permitted transition
    exact ⟨orderly.preserved (once _ _ _ permitted) transition,
      preserved history runtime call next outcome orderly holds permitted transition⟩

end Pih
