import Pih.DeepSeek.BatchEngine
import Mathlib.Data.List.Basic

/-!
# Batched generation

Callers queue jobs and wait; one worker thread admits them, runs plans over
the active ones and completes them; the destructor asks the worker to stop
and joins it.

The model takes one step for each stretch of the worker's loop that shares
nothing with the other threads.  The worker holds the mutex of the queue in
the phases `testing`, `parking` and `admitting`.  The flag `closing` is read
and written without the mutex, so the destructor may store it between any two
steps of the worker.
-/

namespace Pih

/-- A request of `Generate` and its progress. -/
structure BatchJob where
  prompt : List ℕ
  maximum : ℕ
  minimum : ℕ
  capacity : ℕ
  processed : ℕ := 0
  id : ℕ
  generation : ℕ
  sampling : DeepSeekRequestSamplingConfig := {}
  deadline : ℕ
  cancelled : Bool := false
  outputs : List DeepSeekAcceptedTokenSnapshot := []
  accepted : DeepSeekAcceptedTokenSnapshot := {}
  status : Result Unit := .ok ()
  done : Bool := false
  callbackFailed : Bool := false
  returned : Bool := false
deriving Inhabited

/-- `Complete`, which also wakes the caller of the job. -/
def BatchJob.complete (job : BatchJob) (status : Result Unit) : BatchJob :=
  { job with status, done := true }

/-- Where the worker is in its loop. -/
inductive BatchPhase where
  | binding
  | entering
  | testing
  | parking
  | parked
  | woken
  | admitting
  | sweeping (place : ℕ)
  | checking
  | planning
  | settling (selected : List ℕ) (prefill sample : Bool)
  | failing (status : Status)
  | returned
deriving DecidableEq, Repr

/-- What the destructor has done. -/
inductive BatchClosing where
  | open
  | stored
  | notified
  | joined
deriving DecidableEq, Repr

/-- The shared state of the callers and the worker. -/
structure BatchGenerator (Engine : Type) where
  engine : Engine
  sequences : ℕ
  tokens : ℕ
  pending : ℕ
  jobs : List BatchJob := []
  queued : List ℕ := []
  active : List ℕ := []
  closing : Bool := false
  nextPlan : ℕ := 1
  phase : BatchPhase := .binding
  destructor : BatchClosing := .open

/-- What a step shows to the outside. -/
structure BatchEvents where
  pushed : Option ℕ := none
  refused : Option Status := none
  completed : List ℕ := []
  planned : List (ℕ × ℕ × ℕ) := []
  delivered : Option (ℕ × DeepSeekAcceptedTokenSnapshot) := none
  answered : Option (ℕ × Result DeepSeekAcceptedTokenSnapshot) := none
deriving Inhabited

namespace BatchGenerator

variable {Engine : Type}

def create (engine : Engine) (sequences tokens pending : ℕ) : Option (BatchGenerator Engine) :=
  if sequences = 0 ∨ tokens = 0 ∨ pending = 0 then none
  else
    some
      { engine, sequences, tokens, pending }

variable (state : BatchGenerator Engine)

def job (number : ℕ) : BatchJob := state.jobs[number]?.getD default

def updateJob (number : ℕ) (update : BatchJob → BatchJob) : BatchGenerator Engine :=
  { state with jobs := state.jobs.modify number update }

def complete (number : ℕ) (status : Result Unit) : BatchGenerator Engine :=
  state.updateJob number fun job => job.complete status

def interrupted (job : BatchJob) (now : ℕ) : Result Unit :=
  if state.closing ∨ job.cancelled then .error (.unavailable "DeepSeek generation cancelled")
  else if now ≥ job.deadline then .error ⟨.deadlineExceeded, "DeepSeek generation deadline elapsed"⟩
  else .ok ()

/-- The worker holds the mutex of the queue. -/
def locked : Bool :=
  match state.phase with
  | .testing => true
  | .parking => true
  | .admitting => true
  | _ => false

/-! ## The worker -/

def completeAll (numbers : List ℕ) (status : Status) : BatchGenerator Engine :=
  { state with
    jobs := numbers.foldl
        (fun jobs number => jobs.modify number fun job => job.complete (.error status))
        state.jobs }

variable (api : BatchEngine Engine) (state : BatchGenerator Engine)

/-- `Fail`, up to the point where it takes the mutex. -/
def fail (status : Status) : BatchGenerator Engine × BatchEvents :=
  ({ state.completeAll state.active status with
      engine := api.failAll state.engine
      active := []
      phase := .failing status },
    { completed := state.active })

/-- The rest of `Fail`, with the mutex. -/
def failQueued (status : Status) : BatchGenerator Engine × BatchEvents :=
  ({ state.completeAll state.queued status with queued := [], closing := true, phase := .returned },
    { completed := state.queued })

/-- A job that was taken from the queue. -/
def admitJob (number now : ℕ) : BatchGenerator Engine × BatchEvents :=
  let job := state.job number
  match state.interrupted job now with
  | .error status => (state.complete number (.error status), { completed := [number] })
  | .ok () =>
    match api.submitRequest state.engine job.id job.generation with
    | (engine, .error status) =>
      ({ state.complete number (.error status) with engine },
        { completed := [number] })
    | (engine, .ok ()) =>
      match api.configure engine job.id job.generation
          job.prompt.length job.maximum job.minimum job.sampling with
      | (engine, .ok ()) => ({ state with engine, active := state.active ++ [number] }, {})
      | (engine, .error status) =>
        match api.retire engine job.id job.generation true with
        | (engine, .error retired) => fail api { state with engine } retired
        | (engine, .ok ()) =>
          ({ state.complete number (.error status) with engine },
            { completed := [number] })

/-- One turn of the admission loop. -/
def admitNext (now : ℕ) : BatchGenerator Engine × BatchEvents :=
  match state.queued with
  | [] => ({ state with phase := .sweeping 0 }, {})
  | number :: rest =>
    if state.active.length < state.sequences then
      admitJob api { state with queued := rest } number now
    else ({ state with phase := .sweeping 0 }, {})

/-- One turn of the loop that looks for interrupted jobs. -/
def sweepNext (place now : ℕ) : BatchGenerator Engine × BatchEvents :=
  match state.active[place]? with
  | none => ({ state with phase := .checking }, {})
  | some number =>
    let job := state.job number
    match state.interrupted job now with
    | .ok () => ({ state with phase := .sweeping (place + 1) }, {})
    | .error status =>
      match api.retire state.engine job.id job.generation true with
      | (engine, .error retired) => fail api { state with engine } retired
      | (engine, .ok ()) =>
        ({ state.complete number (.error status) with
            engine
            active := state.active.eraseIdx place },
          { completed := [number] })

/-- The members of a plan, with their positions and tokens. -/
structure Selection where
  members : List (ℕ × ℕ × ℕ) := []
  prefill : Bool := false
  sample : Bool := false

variable (selection : Selection)

def Selection.selected : List ℕ := selection.members.map Prod.fst

def Selection.seed : DeepSeekProductionRankPlanSeed where
  positions := selection.members.map fun member => member.2.1
  tokenIds := selection.members.map fun member => member.2.2
  tablePositionCount := selection.members.foldl (fun count member => max count (member.2.1 + 1)) 0

/-- The job still has prompt tokens to process. -/
def prefills (job : BatchJob) : Bool := job.processed < job.prompt.length

/-- The next token of the job is sampled from. -/
def samples (job : BatchJob) : Bool := ¬ prefills job ∨ job.processed + 1 = job.prompt.length

def nextPosition (job : BatchJob) : ℕ :=
  if prefills job then job.processed
  else job.accepted.modelProcessedLength

def nextToken (job : BatchJob) : Option ℕ :=
  if prefills job then job.prompt[job.processed]?
  else job.accepted.pendingInputToken

/-- The loop over the active jobs. -/
def selectFrom (state : BatchGenerator Engine) : List ℕ → Selection → Result Selection
  | [], selection => .ok selection
  | number :: rest, selection =>
    let job := state.job number
    if job.outputs.length ≥ 16 then selectFrom state rest selection
    else
      let selection :=
        if selection.members = [] then
          { selection with prefill := prefills job, sample := samples job }
        else selection
      if prefills job ≠ selection.prefill ∨ samples job ≠ selection.sample then
        selectFrom state rest selection
      else if selection.members.length ≥ min state.sequences state.tokens then .ok selection
      else
        match nextToken job with
        | none => .error (.internal "DeepSeek batch decode frontier invalid")
        | some token =>
          if nextPosition job ≥ job.capacity then
            .error (.internal "DeepSeek batch decode frontier invalid")
          else
            selectFrom state rest
              { selection with members := selection.members ++ [(number, nextPosition job, token)] }

def identities : List DeepSeekRequestIdentity := selection.selected.map fun number =>
    ⟨(state.job number).id, (state.job number).generation, false⟩

def descriptor : DeepSeekPipelinePlanDescriptor where
  engineEpoch := api.epoch state.engine
  planSequence := state.nextPlan
  phase := if selection.prefill then .prefill else .decode
  tokenCount := selection.members.length
  sequenceCount := selection.members.length

/-- The stretch from the selection to the acknowledgement of the plan. -/
def plan (polls : ℕ) : BatchGenerator Engine × BatchEvents :=
  match selectFrom state state.active {} with
  | .error status => fail api state status
  | .ok selection =>
    if selection.members = [] then ({ state with phase := .entering }, {})
    else if state.nextPlan = u64Max then
      fail api state (.resourceExhausted "DeepSeek batch plan identity exhausted")
    else
      match api.runPlan state.engine (descriptor api state selection)
          (identities state selection) selection.seed state.sequences
          state.tokens selection.sample polls with
      | (engine, .error status) =>
        fail api
          { state with engine, nextPlan := state.nextPlan + 1 } status
      | (engine, .ok ()) =>
        ({ state with
            engine
            nextPlan := state.nextPlan + 1
            phase := .settling selection.selected selection.prefill selection.sample },
          { planned := selection.members })

/-- A sampled job takes over its accepted tokens. -/
def settleSampled (number : ℕ) (rest : List ℕ) (prefill : Bool) (now : ℕ) :
    BatchGenerator Engine × BatchEvents :=
  let job := state.job number
  match api.acceptedTokenSnapshot state.engine job.id job.generation with
  | .error status => fail api state status
  | .ok snapshot =>
    if snapshot.acceptedCompletionCount ≠ job.accepted.acceptedCompletionCount + 1 then
      fail api state (.internal "DeepSeek batched token receipt missing")
    else
      let state := state.updateJob number fun job => { job with accepted := snapshot }
      let status := state.interrupted (state.job number) now
      let deliver (state : BatchGenerator Engine) :=
        if Result.isOk status then
          state.updateJob number fun job => { job with outputs := job.outputs ++ [snapshot] }
        else state
      if snapshot.finishReason ≠ .none ∨ ¬ Result.isOk status then
        match api.retire state.engine job.id job.generation (¬ Result.isOk status) with
        | (engine, .error retired) => fail api { state with engine } retired
        | (engine, .ok ()) =>
          ({ (deliver state).complete number status with
              engine
              active := state.active.erase number
              phase := .settling rest prefill true },
            { completed := [number] })
      else ({ deliver state with phase := .settling rest prefill true }, {})

/-- One turn of the loop over the members of a completed plan. -/
def settleNext (selected : List ℕ) (prefill sample : Bool) (now : ℕ) :
    BatchGenerator Engine × BatchEvents :=
  match selected with
  | [] => ({ state with active := state.active.rotate 1, phase := .entering }, {})
  | number :: rest =>
    let state :=
      if prefill then state.updateJob number fun job => { job with processed := job.processed + 1 }
      else state
    if ¬ sample then ({ state with phase := .settling rest prefill sample }, {})
    else settleSampled api state number rest prefill now

/-- One step of the worker at a time of the clock. -/
def work (now polls : ℕ) : BatchGenerator Engine × BatchEvents :=
  match state.phase with
  | .binding =>
    match api.bindExecutionThread state.engine with
    | (engine, .error status) => fail api { state with engine } status
    | (engine, .ok ()) => ({ state with engine, phase := .entering }, {})
  | .entering =>
    if state.active = [] ∧ state.queued = [] ∧ ¬ state.closing then
      ({ state with phase := .testing }, {})
    else ({ state with phase := .admitting }, {})
  | .testing =>
    if state.closing ∨ state.queued ≠ [] then ({ state with phase := .admitting }, {})
    else ({ state with phase := .parking }, {})
  | .parking => ({ state with phase := .parked }, {})
  | .parked => (state, {})
  | .woken => ({ state with phase := .testing }, {})
  | .admitting => admitNext api state now
  | .sweeping place => sweepNext api state place now
  | .checking =>
    if state.active ≠ [] then ({ state with phase := .planning }, {})
    else if state.closing then ({ state with phase := .returned }, {})
    else ({ state with phase := .entering }, {})
  | .planning => plan api state polls
  | .settling selected prefill sample => settleNext api state selected prefill sample now
  | .failing status => failQueued state status
  | .returned => (state, {})

/-! ## Callers and the destructor -/

/-- A parked worker is woken. -/
def notify : BatchGenerator Engine :=
  if state.phase = .parked then { state with phase := .woken }
  else state

/-- The arguments of `Generate` that the worker reads. -/
structure GenerateRequest where
  prompt : List ℕ
  maximum : ℕ
  minimum : ℕ
  capacity : ℕ
  id : ℕ
  generation : ℕ
  sampling : DeepSeekRequestSamplingConfig := {}
  deadline : ℕ

def GenerateRequest.job (request : GenerateRequest) : BatchJob where
  prompt := request.prompt
  maximum := request.maximum
  minimum := request.minimum
  capacity := request.capacity
  id := request.id
  generation := request.generation
  sampling := request.sampling
  deadline := request.deadline

/--
`Generate` up to the point where it waits.  A caller that finds the mutex
taken does nothing in this step.
-/
def generate (request : GenerateRequest) : BatchGenerator Engine × BatchEvents :=
  if request.prompt = [] ∨ request.prompt.length > request.capacity ∨ request.maximum = 0 ∨
      request.maximum > request.capacity - request.prompt.length ∨
      request.minimum > request.maximum ∨
      request.prompt.any fun token => token ≥ 129280 then
    (state,
      { refused := some (.invalidArgument "DeepSeek batched request token bounds invalid") })
  else if state.locked then (state, {})
  else if state.closing then
    (state,
      { refused := some (.unavailable "DeepSeek executor closing") })
  else if state.queued.length ≥ state.pending then
    (state,
      { refused := some (.resourceExhausted "DeepSeek pending queue full") })
  else
    (notify
      { state with
        jobs := state.jobs ++ [request.job]
        queued := state.queued ++ [state.jobs.length] },
      { pushed := some state.jobs.length })

/-- What the callback of a caller does. -/
inductive BatchCallback where
  | accepted
  | refused
  | threw
deriving DecidableEq, Repr

/-- A caller asks its callback whether the job is cancelled. -/
def pollCancelled (number : ℕ) (callback : BatchCallback) : BatchGenerator Engine :=
  match callback with
  | .accepted => state
  | .refused => state.updateJob number fun job => { job with cancelled := true }
  | .threw =>
    state.updateJob number fun job => { job with cancelled := true, callbackFailed := true }

/-- What `Generate` returns once its job is done. -/
def answer (job : BatchJob) (now : ℕ) : Result DeepSeekAcceptedTokenSnapshot :=
  if job.callbackFailed then .error (.internal "DeepSeek caller callback failed")
  else if job.cancelled then .error (.unavailable "DeepSeek generation cancelled")
  else if now ≥ job.deadline then .error ⟨.deadlineExceeded, "DeepSeek generation deadline elapsed"⟩
  else
    match job.status with
    | .error status => .error status
    | .ok () => .ok job.accepted

/-- One turn of the loop in which `Generate` waits for its job. -/
def consume (number now : ℕ) (callback : BatchCallback) : BatchGenerator Engine × BatchEvents :=
  let job := state.job number
  if job.returned then (state, {})
  else
    match job.outputs with
    | output :: rest =>
      let popped := state.updateJob number fun job => { job with outputs := rest }
      if ¬ job.cancelled ∧ now < job.deadline then
        (popped.pollCancelled number callback,
          { delivered := some (number, output) })
      else (popped, {})
    | [] =>
      if job.done then
        (state.updateJob number fun job => { job with returned := true },
          { answered := some (number, answer job now) })
      else (state, {})

/-- A step of one of the threads. -/
inductive Action where
  | work (now polls : ℕ)
  | wakeSpuriously
  | generate (request : GenerateRequest)
  | pollCancelled (number : ℕ) (callback : BatchCallback)
  | consume (number now : ℕ) (callback : BatchCallback)
  | storeClosing
  | notifyAll
  | join

/-- One step of a caller or of the worker. -/
def execute : Action → BatchGenerator Engine × BatchEvents
  | .work now polls => work api state now polls
  | .wakeSpuriously => (notify state, {})
  | .generate request => generate state request
  | .pollCancelled number callback => (pollCancelled state number callback, {})
  | .consume number now callback => consume state number now callback
  | .storeClosing =>
    if state.destructor = .open then ({ state with closing := true, destructor := .stored }, {})
    else (state, {})
  | .notifyAll =>
    if state.destructor = .stored then ({ notify state with destructor := .notified }, {})
    else (state, {})
  | .join =>
    if state.destructor = .notified ∧ state.phase = .returned then
      ({ state with destructor := .joined }, {})
    else (state, {})

end BatchGenerator

end Pih
