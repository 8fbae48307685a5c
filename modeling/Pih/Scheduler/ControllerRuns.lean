import Pih.Scheduler.PlanLinks

/-!
# Runs of the controller runtime

A fresh runtime satisfies the base invariants, so every run does, and every
step of a run is one of the transitions.
-/

namespace Pih

open List

/-! ## The parts of a fresh runtime -/

theorem ControllerMailbox.create_ok (created : create limits = .ok mailbox) :
    mailbox.queuedCommands = [] ∧ mailbox.queuedEvents = [] ∧
      mailbox.nextEventSequence = 1 ∧ mailbox.controllerThread = none := by
  unfold create at created
  split at created
  · cases created
    exact ⟨rfl, rfl, rfl, rfl⟩
  · cases created

theorem ControllerRequestArena.create_ok {limits : ControllerRequestArenaLimits}
    (created : create limits = .ok arena) :
    arena.limits = limits ∧ arena.slots = replicate limits.maximumRequests {} ∧
      arena.tokens.length = limits.maximumRequests * limits.maximumPromptTokensPerRequest := by
  unfold create at created
  split at created
  · cases created
  split at created
  · cases created
  case h_2 multiplied =>
    split at created
    · cases created
    cases created
    refine ⟨rfl, rfl, ?_⟩
    rw [length_replicate, checkedMulU64_ok multiplied]

theorem PackedTokenMetadataArena.create_sized
    (created : create limits = .ok arena) : arena.Sized := by
  unfold create at created
  split at created
  · cases created
  cases created
  exact ⟨length_replicate, length_replicate, length_replicate⟩

theorem OutputBurstCreditPool.create_ok {limits : OutputBurstCreditLimits}
    (created : create limits = .ok pool) : pool.credits = replicate limits.creditCount {} := by
  unfold create at created
  split at created
  · cases created
  cases created
  rfl

namespace ControllerRuntime

/-- The state in which a runtime is created. -/
structure Fresh (limits : ControllerRuntimeLimits) (runtime : ControllerRuntime) : Prop where
  limits_eq : runtime.limits = limits
  slots : runtime.slots = replicate limits.maximumSequences {}
  requestLimits : runtime.ingress.requests.limits = limits.ingress.requests
  requestSlots : runtime.ingress.requests.slots = replicate limits.maximumSequences {}
  requestTokens : runtime.ingress.requests.tokens.length = limits.maximumSequences *
    limits.ingress.requests.maximumPromptTokensPerRequest
  commands : runtime.ingress.mailbox.queuedCommands = []
  events : runtime.ingress.mailbox.queuedEvents = []
  nextEventSequence : runtime.ingress.mailbox.nextEventSequence = 1
  credits : runtime.outputCredits.credits = replicate limits.outputBurstCreditCount {}
  pending : runtime.pendingOutputBursts = replicate limits.outputBurstCreditCount none
  current : runtime.current = none
  metadata : runtime.metadata.Sized
  state : runtime.state = .ready
  nextPlanSequence : runtime.nextPlanSequence = 1
  activeSequenceCount : runtime.activeSequenceCount = 0

variable {limits : ControllerRuntimeLimits}

theorem create_fresh (created : create limits = .ok runtime) : Fresh limits runtime := by
  rcases Result.else_eq_ok.mp created with ⟨consistent, created⟩
  have requests : limits.maximumSequences = limits.ingress.requests.maximumRequests := by
    simp only [limitsConsistent, decide_eq_true_eq, not_or, not_not] at consistent
    exact consistent.2.2.1
  split at created
  · cases created
  rename_i ingressCreated
  split at created
  · cases created
  split at created
  · cases created
  rename_i metadata metadataCreated
  split at created
  · cases created
  rename_i credits creditsCreated
  cases created
  unfold ControllerIngress.create at ingressCreated
  split at ingressCreated
  · cases ingressCreated
  rename_i mailboxCreated
  split at ingressCreated
  · cases ingressCreated
  rename_i arenaCreated
  cases ingressCreated
  rcases ControllerMailbox.create_ok mailboxCreated with ⟨commands, events, counter, -⟩
  rcases ControllerRequestArena.create_ok arenaCreated with ⟨arenaLimits, arenaSlots, arenaTokens⟩
  exact
    { limits_eq := rfl
      slots := rfl
      requestLimits := arenaLimits
      requestSlots := by rw [requests]; exact arenaSlots
      requestTokens := by rw [requests]; exact arenaTokens
      commands
      events
      nextEventSequence := counter
      credits := OutputBurstCreditPool.create_ok creditsCreated
      pending := rfl
      current := rfl
      metadata := PackedTokenMetadataArena.create_sized metadataCreated
      state := rfl
      nextPlanSequence := rfl
      activeSequenceCount := rfl }

/-- A table of empty slots holds no sequence. -/
theorem Fresh.no_holding {sequence : ControllerSequence} (fresh : Fresh limits runtime) :
    ¬ Holding runtime.slots index slot sequence := by
  rintro ⟨found, held⟩
  rw [fresh.slots] at found
  have empty := eq_of_mem_replicate (mem_of_getElem? found)
  rw [empty] at held
  cases held

/-! ## The base invariants -/

/-- The invariants that every other one rests on. -/
structure Base (runtime : ControllerRuntime) : Prop where
  credits : runtime.CreditsBalanced
  links : runtime.PlanLinks

theorem Fresh.base (fresh : Fresh limits runtime) : runtime.Base := by
  have noPending : ∀ lease, some lease ∉ runtime.pendingOutputBursts := by
    intro lease member
    rw [fresh.pending] at member
    cases eq_of_mem_replicate member
  constructor
  · constructor
    · rw [fresh.pending, length_replicate, fresh.limits_eq]
    · exact fun lease member => (noPending lease member).elim
    · intro first second lease other found
      exact (noPending lease (mem_of_getElem? found)).elim
    · rw [fresh.current]
      rintro _ ⟨⟩
    · rw [fresh.current]
      rintro _ ⟨⟩
    · unfold pendingBurstCount currentBurstCount OutputBurstCreditPool.available
      rw [fresh.pending, fresh.current, fresh.credits, fresh.limits_eq, countP_replicate]
      simp [OutputBurstCreditPool.isFree]
  · constructor
    · exact fun index slot sequence holding => (fresh.no_holding holding).elim
    · exact fresh.metadata
    · rw [fresh.requestSlots]
      intro slot member
      rw [eq_of_mem_replicate member]
      exact Nat.zero_le _
    · rw [fresh.current]
      rintro _ ⟨⟩
    · exact fun index slot sequence holding => (fresh.no_holding holding).elim
    · rw [fresh.current]
      rintro _ _ ⟨⟩

theorem Base.transition (base : runtime.Base) (call : ControllerCall) :
    Transition runtime call (runtime.execute call).1 (runtime.execute call).2 :=
  execute_transition (base.links.consistent base.credits) call

theorem Base.preserved {next : ControllerRuntime} (base : runtime.Base)
    (transition : Transition runtime call next outcome) : next.Base :=
  ⟨base.credits.preserved transition, base.links.preserved transition⟩

end ControllerRuntime

namespace ControllerRun

open ControllerRuntime

variable {limits : ControllerRuntimeLimits}

theorem base (run : ControllerRun limits allowed history runtime) : runtime.Base := by
  rcases run with ⟨_, created, run⟩
  refine run.invariant (fun _ state => state.Base) (create_fresh created).base ?_
  intro _ state call _ base _
  exact base.preserved (base.transition call)

/-- The limits of a runtime never change. -/
theorem limits_eq (run : ControllerRun limits allowed history runtime) :
    runtime.limits = limits := by
  rcases run with ⟨_, created, run⟩
  refine (run.invariant (fun _ state => state.Base ∧ state.limits = limits) ?_ ?_).2
  · exact ⟨(create_fresh created).base, (create_fresh created).limits_eq⟩
  · rintro _ state call - ⟨base, same⟩ -
    have transition := base.transition call
    refine ⟨base.preserved transition, Eq.trans ?_ same⟩
    generalize state.execute call = answer at transition
    rcases answer with ⟨_, _⟩
    cases transition with
    | request transition => cases transition <;> rfl
    | _ => rfl

/-- Induction over the transitions of a run. -/
theorem induct (Invariant : ControllerHistory → ControllerRuntime → Prop)
    (initial : ∀ fresh, Fresh limits fresh → Invariant [] fresh)
    (preserved : ∀ history runtime call next outcome, runtime.Base → Invariant history runtime →
      allowed history runtime call →
      Transition runtime call next outcome →
      Invariant (history ++ [⟨runtime, call, next, outcome⟩]) next)
    (run : ControllerRun limits allowed history runtime) : Invariant history runtime := by
  rcases run with ⟨fresh, created, run⟩
  refine (run.invariant (fun history runtime => runtime.Base ∧ Invariant history runtime) ?_ ?_).2
  · have start := create_fresh created
    exact ⟨start.base, initial fresh start⟩
  · rintro before state call - ⟨base, holds⟩ permitted
    have transition := base.transition call
    exact ⟨base.preserved transition,
      preserved before state call _ _ base holds permitted transition⟩

end ControllerRun

/-! ## Scripted runs -/

namespace ControllerRuntime

/-- A small runtime: two sequences, prefill chunks of two tokens. -/
def smallLimits : ControllerRuntimeLimits where
  epoch := 1
  maximumSequences := 2
  ingress := ⟨⟨4, 8⟩, ⟨2, 4, 16⟩⟩
  scheduler := ⟨2, 2, 4, 2, 4, 100⟩
  metadata := ⟨2, 4⟩
  maximumPrefillChunkTokens := 2
  padToMaximumExecutionBucket := false
  profileRevision := [112]
  resourceVectorHash := ⟨replicate 32 1, rfl⟩

/-- The call on the current plan by its own sequence and digest. -/
def callCurrent (thread : ThreadId) (operation : ℕ → Sha256Digest → ControllerOperation)
    (runtime : ControllerRuntime) : ControllerCall where
  thread := thread
  operation :=
    match runtime.current with
    | none => operation 0 .zero
    | some current => operation current.plan.planSequence current.digest

/-- The calls of a thread that put a plan in flight. -/
def planScript : List (ControllerRuntime → ControllerCall) :=
  [fun _ => ⟨1, .prepareNextPlan 0⟩, callCurrent 1 .commitCurrentPlan,
    callCurrent 1 .markCurrentPlanInFlight]

/-- A script reaches a history and a state with the given property. -/
def scriptReaches (limits : ControllerRuntimeLimits)
    (allowed : ControllerHistory → ControllerRuntime → ControllerCall → Prop)
    [∀ history runtime call, Decidable (allowed history runtime call)]
    (script : List (ControllerRuntime → ControllerCall))
    (reached : ControllerHistory → ControllerRuntime → Bool) : Bool :=
  match create limits with
  | .error _ => false
  | .ok fresh =>
    decide (ScriptAllowed execute allowed [] fresh script) &&
      reached (runScript execute [] fresh script).1 (runScript execute [] fresh script).2

end ControllerRuntime

/-- What a script reaches is reached by a run. -/
theorem ControllerRun.of_script [∀ history runtime call, Decidable (allowed history runtime call)]
    (reaches : ControllerRuntime.scriptReaches limits allowed script reached = true) :
    ∃ history runtime, ControllerRun limits allowed history runtime ∧
      reached history runtime = true := by
  unfold ControllerRuntime.scriptReaches at reaches
  split at reaches
  · cases reaches
  case h_2 fresh created =>
    rw [Bool.and_eq_true, decide_eq_true_eq] at reaches
    exact ⟨_, _, ⟨fresh, created, Run.start.runScript script reaches.1⟩, reaches.2⟩

end Pih
