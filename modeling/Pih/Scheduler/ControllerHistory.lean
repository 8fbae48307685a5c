import Pih.Scheduler.ControllerRuns

/-!
# What a history tells

The observable side of a run: the events that were published and taken, the
plans that were completed and the plans that were acknowledged.  Taken and
queued events together are the published ones, numbered from one.
-/

namespace Pih

open List

open ControllerMailbox

/-! ## Mailboxes that continue the event stream -/

/-- The queue grew by events with these drafts, numbered by the counter. -/
structure ControllerMailbox.Continues (mailbox next : ControllerMailbox)
    (drafts : List ControllerOutputEventDraft) : Prop where
  queuedEvents : ∃ events : List ControllerOutputEvent,
      next.queuedEvents = mailbox.queuedEvents ++ events ∧
        events.map ControllerOutputEvent.toControllerOutputEventDraft = drafts
  numbered : ∀ earlier : List ControllerOutputEvent, Consecutive (earlier ++ mailbox.queuedEvents) →
      CounterAgrees (earlier ++ mailbox.queuedEvents).length mailbox.nextEventSequence →
      Consecutive (earlier ++ next.queuedEvents) ∧
        CounterAgrees (earlier ++ next.queuedEvents).length next.nextEventSequence

namespace ControllerMailbox

variable {mailbox next : ControllerMailbox}

theorem Emits.continues (emits : Emits thread mailbox drafts next) :
    mailbox.Continues next drafts :=
  ⟨emits.queuedEvents, fun _ consecutive agrees => emits.consecutive consecutive agrees⟩

/-- Nothing was published. -/
theorem continues_of_events (events : next.events = mailbox.events)
    (counter : next.nextEventSequence = mailbox.nextEventSequence) : mailbox.Continues next [] := by
  have queued : next.queuedEvents = mailbox.queuedEvents := by
    unfold queuedEvents
    rw [events]
  refine ⟨⟨[], by rw [queued, append_nil], rfl⟩, ?_⟩
  intro earlier consecutive agrees
  rw [queued, counter]
  exact ⟨consecutive, agrees⟩

theorem Queued.continues (queued : mailbox.Queued next command) : mailbox.Continues next [] :=
  continues_of_events queued.events queued.nextEventSequence

theorem Took.continues (took : Took thread mailbox command next) : mailbox.Continues next [] :=
  continues_of_events took.events took.nextEventSequence

theorem SameQueues.continues (queues : SameQueues thread mailbox next) :
    mailbox.Continues next [] :=
  continues_of_events queues.events queues.nextEventSequence

theorem Published.continues (published : Published mailbox next thread draft) :
    mailbox.Continues next [draft] :=
  (Emits.single published).continues

theorem Continues.trans (earlier : mailbox.Continues middle first)
    (later : middle.Continues next second) : mailbox.Continues next (first ++ second) := by
  rcases earlier.queuedEvents with ⟨before, grown, drafted⟩
  rcases later.queuedEvents with ⟨after, regrown, redrafted⟩
  refine ⟨⟨before ++ after, ?_, ?_⟩, ?_⟩
  · rw [regrown, grown, append_assoc]
  · rw [map_append, drafted, redrafted]
  · intro events consecutive agrees
    rcases earlier.numbered events consecutive agrees with ⟨consecutive, agrees⟩
    exact later.numbered events consecutive agrees

end ControllerMailbox

/-! ## Observations on one call -/

abbrev ControllerEntry := Entry ControllerRuntime ControllerCall ControllerOutcome

namespace ControllerRuntime

/-- The events that wait in the mailbox. -/
def queuedEvents (runtime : ControllerRuntime) : List ControllerOutputEvent :=
  runtime.ingress.mailbox.queuedEvents

section

variable (entry : ControllerEntry)

/-- The event that a call handed out. -/
def takenBy : Option ControllerOutputEvent :=
  match entry.outcome with
  | .event (.ok taken) => taken
  | _ => none

/-- The events that a call published. -/
def publishedBy : List ControllerOutputEvent :=
  entry.after.queuedEvents.drop entry.before.queuedEvents.length

/-- The plan that a call completed. -/
def completedBy : Option CurrentPlan :=
  match entry.action.operation, entry.outcome with
  | .completeCurrentPlan _ _, .status (.ok ()) => entry.before.current
  | .completeCurrentSampledTokens _ _, .status (.ok ()) => entry.before.current
  | _, _ => none

/-- The plan that a call acknowledged. -/
def acknowledgedBy : Option ℕ :=
  match entry.action.operation, entry.outcome with
  | .acknowledgeOutputPlan planSequence, .status (.ok ()) => some planSequence
  | _, _ => none

end

variable (history : ControllerHistory) {runtime : ControllerRuntime}

/-- The events taken in a history. -/
def taken : List ControllerOutputEvent := history.filterMap takenBy

/-- The events published in a history. -/
def published : List ControllerOutputEvent := history.flatMap publishedBy

@[simp]
theorem taken_snoc (entry : ControllerEntry) :
    taken (history ++ [entry]) = taken history ++ (takenBy entry).toList :=
  filterMap_concat takenBy entry

@[simp]
theorem published_snoc (entry : ControllerEntry) : published (history ++ [entry]) =
      published history ++ publishedBy entry := by
  unfold published
  rw [flatMap_append, flatMap_singleton]

/-- A call published the events with these drafts and took none. -/
structure Tells (entry : ControllerEntry) (drafts : List ControllerOutputEventDraft) : Prop where
  taken : takenBy entry = none
  continues : entry.before.ingress.mailbox.Continues entry.after.ingress.mailbox drafts

theorem Tells.queuedEvents (tells : Tells entry drafts) :
    entry.after.queuedEvents = entry.before.queuedEvents ++ publishedBy entry ∧
      (publishedBy entry).map ControllerOutputEvent.toControllerOutputEventDraft = drafts := by
  rcases tells.continues.queuedEvents with ⟨events, grown, drafted⟩
  have published : publishedBy entry = events := by
    unfold publishedBy ControllerRuntime.queuedEvents
    rw [grown, drop_left]
  rw [published]
  exact ⟨grown, drafted⟩

/-- A call took the oldest event. -/
structure Takes (entry : ControllerEntry) (event : ControllerOutputEvent) : Prop where
  taken : takenBy entry = some event
  queuedEvents : entry.before.queuedEvents = event :: entry.after.queuedEvents
  counter : entry.after.ingress.mailbox.nextEventSequence =
    entry.before.ingress.mailbox.nextEventSequence

theorem Takes.publishedBy (takes : Takes entry event) : publishedBy entry = [] := by
  unfold ControllerRuntime.publishedBy
  rw [takes.queuedEvents, drop_eq_nil_iff]
  exact Nat.le_succ _

/-- Only a successful call completes or acknowledges a plan. -/
theorem no_plan_of_outcome {entry : ControllerEntry} (other : entry.outcome ≠ .status (.ok ())) :
    completedBy entry = none ∧ acknowledgedBy entry = none := by
  unfold completedBy acknowledgedBy
  constructor
  · split
    case h_1 told => exact (other told).elim
    case h_2 told => exact (other told).elim
    · rfl
  · split
    case h_1 told => exact (other told).elim
    · rfl

theorem completedBy_of_completes {entry : ControllerEntry}
    {current : CurrentPlan} {results : List ControllerBackendSequenceResult} {nowNs : ℤ}
    (operation : entry.before.CompletesWith current entry.action.operation results nowNs)
    (isCurrent : entry.before.current = some current)
    (completed : entry.outcome = .status (.ok ())) :
    completedBy entry = some current ∧ acknowledgedBy entry = none := by
  unfold completedBy acknowledgedBy
  rw [completed]
  generalize call : entry.action.operation = performed at operation
  cases operation with
  | results | sampled => exact ⟨isCurrent, rfl⟩

/-! ## The stream of a run -/

/-- A call without progress reports no event. -/
theorem takenBy_of_inert (inert : entry.outcome.inert = true) : takenBy entry = none := by
  unfold takenBy
  split
  case h_1 taken told =>
    rw [told] at inert
    cases taken with
    | none => rfl
    | some => cases inert
  · rfl

variable {next : ControllerRuntime}

/-- The calls that concern requests append to the stream. -/
theorem RequestTransition.tells (transition : RequestTransition runtime call next outcome) :
    ∃ drafts, Tells ⟨runtime, call, next, outcome⟩ drafts := by
  cases transition with
  | submitted _ _ _ queued => exact ⟨_, rfl, queued.continues⟩
  | withdrawn => exact ⟨_, rfl, continues_of_events rfl rfl⟩
  | unmatched steps _ _ | overflowed steps _ _ _ => exact ⟨_, rfl, steps.took.continues⟩
  | cancelDrained steps _ _ _ published | rejected steps _ _ published
  | admitted steps _ _ _ _ _ published =>
    exact ⟨_, rfl, steps.took.continues.trans published.continues⟩
  | cancelStuck steps _ _ _ queues _ | abandoned steps _ _ _ queues =>
    exact ⟨_, rfl, steps.took.continues.trans queues.continues⟩
  | completed _ _ completed => exact ⟨_, rfl, completed.emits.continues⟩
  | completionBroken _ _ broken => exact ⟨_, rfl, broken.emits.continues⟩
  | finalized _ _ _ _ _ published => exact ⟨_, rfl, published.continues⟩
  | finalizeStuck _ _ _ queues => exact ⟨_, rfl, queues.continues⟩

/-- Every call takes the oldest event or appends to the stream. -/
theorem Transition.stream (transition : Transition runtime call next outcome) :
    (∃ event, Takes ⟨runtime, call, next, outcome⟩ event) ∨
      ∃ drafts, Tells ⟨runtime, call, next, outcome⟩ drafts := by
  cases transition with
  | request transition => exact .inr transition.tells
  | quiet queues _ inert => exact .inr ⟨_, takenBy_of_inert inert, queues.continues⟩
  | cancelSubmitted _ _ queued => exact .inr ⟨_, rfl, queued.continues⟩
  | ignored steps _ | corrupted steps _ _ | cancelRequested steps _ _ =>
    exact .inr ⟨_, rfl, steps.took.continues⟩
  | @tookEvent event _ _ queue => exact .inl ⟨event, rfl, queue, rfl⟩
  | _ => exact .inr ⟨[], rfl, continues_of_events rfl rfl⟩

/-- Taken and queued events are the published ones, numbered from one. -/
structure EventsNumbered (runtime : ControllerRuntime) : Prop where
  split : taken history ++ runtime.queuedEvents = published history
  consecutive : Consecutive (published history)
  counter : CounterAgrees (published history).length runtime.ingress.mailbox.nextEventSequence

theorem EventsNumbered.preserved {history : ControllerHistory}
    (numbered : EventsNumbered history runtime)
    (transition : Transition runtime call next outcome) :
    EventsNumbered (history ++ [⟨runtime, call, next, outcome⟩]) next := by
  rcases transition.stream with ⟨_, takes⟩ | ⟨_, tells⟩
  · have queue := takes.queuedEvents
    constructor
    · rw [taken_snoc, published_snoc, takes.taken, takes.publishedBy,
        ← numbered.split, queue, append_nil, append_assoc]
      rfl
    · rw [published_snoc, takes.publishedBy, append_nil]
      exact numbered.consecutive
    · rw [published_snoc, takes.publishedBy, append_nil]
      have counter := takes.counter
      rw [counter]
      exact numbered.counter
  have queue := tells.queuedEvents.1
  have split : taken (history ++ [⟨runtime, call, next, outcome⟩]) ++ next.queuedEvents =
      published (history ++ [⟨runtime, call, next, outcome⟩]) := by
    rw [taken_snoc, published_snoc, tells.taken, queue, ← numbered.split]
    simp
  have continued := tells.continues.numbered _ (numbered.split ▸ numbered.consecutive)
      (numbered.split ▸ numbered.counter)
  rw [taken_snoc, tells.taken, Option.toList_none, append_nil] at split
  change Consecutive (taken history ++ next.queuedEvents) ∧
    CounterAgrees (taken history ++ next.queuedEvents).length
      next.ingress.mailbox.nextEventSequence at continued
  rw [split] at continued
  constructor
  · rw [taken_snoc, tells.taken, Option.toList_none, append_nil]
    exact split
  · exact continued.1
  · exact continued.2

end ControllerRuntime

open ControllerRuntime in
theorem ControllerRun.numbered {limits : ControllerRuntimeLimits}
    {allowed : ControllerHistory → ControllerRuntime → ControllerCall → Prop}
    {history : ControllerHistory} {runtime : ControllerRuntime}
    (run : ControllerRun limits allowed history runtime) : EventsNumbered history runtime := by
  refine run.induct EventsNumbered ?_ ?_
  · intro start fresh
    refine ⟨?_, rfl, ?_⟩
    · change [] ++ start.ingress.mailbox.queuedEvents = []
      rw [fresh.events]
      rfl
    · rw [fresh.nextEventSequence]
      exact counterAgrees_start
  · intro _ _ _ _ _ _ numbered _ transition
    exact numbered.preserved transition

end Pih
