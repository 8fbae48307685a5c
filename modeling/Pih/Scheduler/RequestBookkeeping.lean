import Pih.Scheduler.LiveLedger

/-!
# The bookkeeping of requests

The two ledgers hold together in every state of the runtime, whatever the
submitters are doing.  In particular a queued admission always finds its
payload, and a claimed one always finds a free place in the sequence table.
-/

namespace Pih

open ControllerRequestArena ControllerSequence List

open ControllerMailbox
open ControllerRequestArena (QueueLedger Writes writes_clearSlot writes_setState)

namespace ControllerRuntime

/-- The invariant of requests and slots. -/
structure Bookkeeping (submitting : List ControllerRequestReceipt)
    (runtime : ControllerRuntime) : Prop where
  queue : QueueLedger submitting runtime.queuedAdmissions runtime.ingress.requests
  live : LiveLedger runtime.slots runtime.ingress.requests
  active : runtime.activeSequenceCount = runtime.slots.countP isOccupied
  ended : runtime.state = .ready →
      ∀ index slot sequence, Holding runtime.slots index slot sequence →
        sequence.state.terminal = false
  sized : runtime.slots.length = runtime.ingress.requests.slots.length

theorem queuedAdmissions_of_admission {runtime next : ControllerRuntime}
    {thread : ThreadId} {command : ControllerCommand} {mailbox : ControllerMailbox}
    (took : Took thread runtime.ingress.mailbox command mailbox) (kind : command.kind = .admission)
    (same : next.ingress.mailbox.commands = mailbox.commands) :
    runtime.queuedAdmissions = command :: next.queuedAdmissions := by
  unfold queuedAdmissions
  rw [took.commands, filter_cons_of_pos (by simpa using kind)]
  unfold ControllerMailbox.queuedCommands
  rw [same]

namespace Bookkeeping

variable {submitting : List ControllerRequestReceipt}
  {runtime next : ControllerRuntime}

variable {sequence : ControllerSequence}

section

variable (books : Bookkeeping submitting runtime)

include books

/-- The table goes on with the same requests. -/
theorem carry (queue : QueueLedger others next.queuedAdmissions next.ingress.requests)
    (live : LiveLedger runtime.slots next.ingress.requests)
    (sized : next.ingress.requests.slots.length = runtime.ingress.requests.slots.length)
    (carries : Carries runtime.slots next.slots)
    (active : next.activeSequenceCount = runtime.activeSequenceCount)
    (ready : next.state = .ready → runtime.state = .ready) :
    Bookkeeping others next where
  queue := queue
  live := live.carry carries
  active := by
    rw [active, carries.counts.2]
    exact books.active
  ended := by
    intro isReady index slot sequence holding
    rcases carries index with same | ⟨_, _, -, -, found, empty⟩ | ⟨_, _, _, _, -, holds, -, tracks⟩
    · exact books.ended (ready isReady) index slot sequence ⟨same.symm.trans holding.1, holding.2⟩
    · cases found.symm.trans holding.1
      cases empty.symm.trans holding.2
    rcases holds.unique holding with ⟨-, rfl⟩
    exact tracks.liveAfter
  sized := by
    rw [carries.length, sized]
    exact books.sized

/-- Neither the arena nor the queued admissions changed. -/
theorem frame (requests : next.ingress.requests = runtime.ingress.requests)
    (admissions : next.queuedAdmissions = runtime.queuedAdmissions)
    (carries : Carries runtime.slots next.slots)
    (active : next.activeSequenceCount = runtime.activeSequenceCount)
    (ready : next.state = .ready → runtime.state = .ready) : Bookkeeping submitting next := by
  refine books.carry ?_ ?_ ?_ carries active ready
  · rw [admissions, requests]
    exact books.queue
  · rw [requests]
    exact books.live
  · rw [requests]

theorem silent (silent : Silent runtime call next outcome) : Bookkeeping submitting next := by
  rcases silent.slots with ⟨_, moves⟩
  exact books.frame silent.requests silent.admissions
    (.moves moves fun _ _ _ works => works.tracks) silent.active
    silent.ready

/-- The payload of the oldest admission is in the arena. -/
theorem matched (queued : command ∈ runtime.queuedAdmissions) :
    ∃ index slot, runtime.ingress.requests.Claimed command index slot ∧
      ∀ other ∈ runtime.ingress.requests.slots,
        publishedWith command.requestGeneration other = true → other = slot := by
  rcases books.queue.queued command queued with ⟨index, slot, claimed, -⟩
  refine ⟨index, slot, claimed, ?_⟩
  intro other member published
  rcases mem_iff_getElem?.mp member with ⟨place, found⟩
  simp only [publishedWith, decide_eq_true_eq] at published
  have same : place = index := books.queue.resident place index other slot found claimed.found
      (by simp [published.1]) (by simp [claimed.published])
      (published.2.trans claimed.requestGeneration.symm)
  subst same
  exact Option.some.inj (found.symm.trans claimed.found)

/-- A live sequence of a waiting generation would have a second payload. -/
theorem live_ne_claimed
    (claimed : runtime.ingress.requests.Claimed command requestIndex request)
    (live : Live runtime.slots index slot sequence) :
    sequence.sequenceGeneration ≠ command.requestGeneration := by
  intro same
  rcases books.live.serving index slot sequence live with ⟨payload, serving⟩
  have equal := books.queue.resident _ _ payload request serving.found claimed.found
      (by simp [serving.claimed]) (by simp [claimed.published])
      (serving.generation.trans (same.trans claimed.requestGeneration.symm))
  have payloadFound := serving.found
  rw [equal] at payloadFound
  cases claimed.found.symm.trans payloadFound
  cases claimed.published.symm.trans serving.claimed

/-- A published payload leaves a place in the table. -/
theorem vacancy (ready : runtime.state = .ready)
    (member : slot ∈ runtime.ingress.requests.slots) (unclaimed : slot.state ≠ .claimed) :
    ∃ free ∈ runtime.slots, free.sequence = none := by
  have fewer : runtime.ingress.requests.claimedCount < runtime.ingress.requests.slots.length := by
    rcases Nat.lt_or_ge runtime.ingress.requests.claimedCount
        runtime.ingress.requests.slots.length with below | all
    · exact below
    have every := countP_eq_length.mp (le_antisymm countP_le_length all)
    exact (unclaimed (of_decide_eq_true (every slot member))).elim
  rw [← books.live.counted, ← books.sized] at fewer
  rcases exists_not_of_countP_lt fewer with ⟨free, inside, dead⟩
  refine ⟨free, inside, ?_⟩
  cases held : free.sequence with
  | none => rfl
  | some sequence =>
    rcases mem_iff_getElem?.mp inside with ⟨index, found⟩
    have live := books.ended ready index free sequence ⟨found, held⟩
    rw [isLive_of_sequence held, live] at dead
    cases dead

/-! ## The parts of a submission -/

theorem publish {maximum : ℕ} (published : PublishedRequest runtime.ingress.requests
        requests generation prompt maximum sampling receipt) :
    Bookkeeping (receipt :: submitting)
      { runtime with ingress := { runtime.ingress with requests } } := by
  rcases published.writes with ⟨_, free, writes⟩
  refine books.carry (books.queue.publish published) ?_ ?_ (.refl _) rfl id
  · exact books.live.write writes (by simp [free]) (nofun)
  · exact writes.length

end

theorem enqueue (books : Bookkeeping (receipt :: submitting) runtime)
    (queued : runtime.ingress.mailbox.Queued mailbox command) (kind : command.kind = .admission)
    (generation : command.requestGeneration = receipt.requestGeneration)
    (digest : command.payloadDigest = receipt.payloadDigest) :
    Bookkeeping submitting (runtime.withMailbox mailbox) := by
  have admissions : (runtime.withMailbox mailbox).queuedAdmissions =
      runtime.queuedAdmissions ++ [command] := by
    rw [@queuedAdmissions_of_queued _ (runtime.withMailbox mailbox) _
      queued, filter_cons_of_pos (by simpa using kind),
      filter_nil]
  constructor
  · rw [admissions]
    exact books.queue.enqueue generation digest
  · exact books.live
  · exact books.active
  · exact books.ended
  · exact books.sized

theorem rollback (books : Bookkeeping (receipt :: submitting) runtime) : Bookkeeping submitting
      { runtime with
        ingress :=
          { runtime.ingress with
            requests := runtime.ingress.requests.clearSlot receipt.slotIndex } } := by
  rcases books.queue.received receipt (.head _) with ⟨_, receives⟩
  have writes := writes_clearSlot receives.found
  refine books.carry books.queue.rollback ?_ writes.length (.refl _) rfl id
  exact books.live.write writes (by simp [receives.published]) (nofun)

section

variable (books : Bookkeeping submitting runtime)

include books

theorem perm (same : others.Perm submitting) : Bookkeeping others runtime :=
  { books with queue := books.queue.perm same }

/-! ## The calls that concern requests -/

section

variable {taken : ControllerMailbox} (steps : runtime.Steps call now command taken)
  (kind : command.kind = .admission)

include steps kind

/-- An admission was taken and its payload given back. -/
theorem giveBack
    (claimed : runtime.ingress.requests.Claimed command index request)
    (commands : next.ingress.mailbox.commands = taken.commands)
    (requests : next.ingress.requests = (runtime.ingress.requests.setState index request
      .claimed).clearSlot index) (slots : VacantWrite runtime.slots next.slots)
    (active : next.activeSequenceCount = runtime.activeSequenceCount) :
    Bookkeeping submitting next := by
  have admissions := queuedAdmissions_of_admission steps.took kind commands
  have writes : Writes runtime.ingress.requests next.ingress.requests index request
      { generation := request.generation } := by
    rw [requests]
    have first := writes_setState claimed.found .claimed
    exact first.trans (writes_clearSlot first.self)
  have queue := books.queue
  rw [admissions] at queue
  refine books.carry ?_ ?_ writes.length (.vacant slots) active (fun _ => steps.ready)
  · exact queue.take claimed writes (fun used => (used rfl).elim) (nofun)
  · exact books.live.write writes (by simp [claimed.published]) (nofun)

/-- An admission was taken and its sequence installed. -/
theorem install
    (claimed : runtime.ingress.requests.Claimed command requestIndex request)
    (found : runtime.slots[index]? = some slot) (vacant : slot.sequence = none)
    (created : admitSequence command.requestGeneration request.promptTokens 1 = .ok sequence)
    (commands : next.ingress.mailbox.commands = taken.commands) (requests : next.ingress.requests =
      runtime.ingress.requests.setState requestIndex request .claimed)
    (slots : next.slots = runtime.slots.set index (runtime.admittedSlot slot now
        (runtime.ingress.requests.view requestIndex request) sequence))
    (active : next.activeSequenceCount = runtime.activeSequenceCount + 1) :
    Bookkeeping submitting next := by
  have admissions := queuedAdmissions_of_admission steps.took kind commands
  have writes := writes_setState claimed.found .claimed
  have sequence_eq : sequence =
      { sequenceGeneration := command.requestGeneration
        promptTokenCount := request.promptTokens
        stateGeneration := 1 } := by
    unfold admitSequence at created
    split at created
    · cases created
    · exact (Except.ok.inj created).symm
  have inside := (List.getElem_of_getElem? found).1
  have queue := books.queue
  rw [admissions] at queue
  constructor
  · rw [requests]
    exact queue.take claimed writes (fun _ => rfl) (nofun)
  · rw [requests, slots]
    refine books.live.start writes (by simp [claimed.published]) rfl ?_
      found vacant rfl ?_ rfl ?_ ?_
    · intro place other sequence live
      rw [claimed.requestGeneration]
      exact books.live_ne_claimed claimed live
    · rw [sequence_eq]
      rfl
    · rw [sequence_eq]
      exact claimed.requestGeneration.symm
    · rw [sequence_eq]
  · rw [active, slots, books.active]
    have counts := countP_set_add isOccupied (runtime.admittedSlot slot now
          (runtime.ingress.requests.view requestIndex request) sequence)
        found
    have empty : isOccupied slot = false := by
      unfold isOccupied
      rw [vacant]
      rfl
    simp only [empty] at counts
    exact counts.symm
  · intro ready other held another holding
    rw [slots] at holding
    rcases (holding_set_iff inside _).mp holding with ⟨-, -, same⟩ | ⟨-, before⟩
    · cases Option.some.inj same
      rw [sequence_eq]
      rfl
    · exact books.ended steps.ready other held another before
  · rw [slots, requests, length_set, writes.length]
    exact books.sized

end

section

variable (holding : Holding runtime.slots index slot sequence)
  (draining : sequence.state = .draining)

include holding draining

/-- A draining sequence ended and its payload was released. -/
theorem finish (ended : isLive written = false) (commands :
      next.ingress.mailbox.commands = runtime.ingress.mailbox.commands)
    (requests : next.ingress.requests = runtime.ingress.requests.clearSlot slot.request.slotIndex)
    (slots : next.slots = runtime.slots.set index written)
    (active : next.activeSequenceCount + (if isOccupied written then 0 else 1) =
        runtime.activeSequenceCount)
    (ready : next.state = .ready → runtime.state = .ready ∧ written.sequence = none) :
    Bookkeeping submitting next := by
  have live : Live runtime.slots index slot sequence := ⟨holding, by rw [draining]; rfl⟩
  rcases books.live.serving index slot sequence live with ⟨_, serving⟩
  constructor
  · rw [requests, queuedAdmissions_of_commands commands]
    exact books.queue.release serving.found serving.claimed
  · rw [requests, slots]
    exact books.live.finish live ended
  · have counts := countP_set_add isOccupied written holding.1
    have occupied : isOccupied slot = true := by
      unfold isOccupied
      rw [holding.2]
      rfl
    rw [occupied, if_pos rfl, ← books.active] at counts
    rw [slots]
    split at active
    case isTrue stays =>
      rw [if_pos stays] at counts
      omega
    case isFalse leaves =>
      rw [if_neg leaves] at counts
      omega
  · intro isReady other held another otherHolding
    rcases ready isReady with ⟨wasReady, empty⟩
    rw [slots] at otherHolding
    rcases (holding_set_iff holding.lt written).mp otherHolding with
      ⟨-, -, writtenHeld⟩ | ⟨-, before⟩
    · cases empty.symm.trans writtenHeld
    · exact books.ended wasReady other held another before
  · rw [slots, requests, length_set, (writes_clearSlot serving.found).length]
    exact books.sized

/-- The claimed payload of a draining sequence can be released. -/
theorem releases (release : Release runtime.ingress.requests slot.request requests) :
    requests = runtime.ingress.requests.clearSlot slot.request.slotIndex := by
  have live : Live runtime.slots index slot sequence := ⟨holding, by rw [draining]; rfl⟩
  rcases books.live.serving index slot sequence live with ⟨payload, serving⟩
  cases release with
  | released => rfl
  | kept stale =>
    refine (stale payload serving.found ⟨serving.claimed, ?_⟩).elim
    exact (congrArg ControllerRequestView.slotGeneration serving.view).symm

end

/-- An admission that was taken finds its payload. -/
theorem not_unmatched (queued : command ∈ runtime.queuedAdmissions) :
    ¬ ((∀ slot ∈ runtime.ingress.requests.slots,
        ¬ publishedWith command.requestGeneration slot = true) ∨
      ∃ slot ∈ runtime.ingress.requests.slots,
        publishedWith command.requestGeneration slot = true ∧
          slot.payloadDigest ≠ command.payloadDigest) := by
  rcases books.matched queued with ⟨_, own, claimed, unique⟩
  rintro (none | ⟨slot, member, published, different⟩)
  · refine none own (mem_of_getElem? claimed.found) ?_
    simp [publishedWith, claimed.published, claimed.requestGeneration]
  · rw [unique slot member published] at different
    exact different claimed.payloadDigest

end

theorem mem_of_took {taken : ControllerMailbox} (steps : runtime.Steps call now command taken)
    (kind : command.kind = .admission) : command ∈ runtime.queuedAdmissions := by
  rw [@queuedAdmissions_of_admission runtime (runtime.withMailbox taken) _ _ _ steps.took kind rfl]
  exact .head _

theorem request (books : Bookkeeping submitting runtime)
    (transition : RequestTransition runtime call next outcome) : Bookkeeping submitting next := by
  cases transition with
  | submitted _ _ published queued value =>
    have done := (books.publish published).enqueue queued
    rw [value] at done
    exact done rfl published.requestGeneration_eq.symm rfl
  | withdrawn published => exact (books.publish published).rollback
  | unmatched steps kind missing =>
    exact (books.not_unmatched (mem_of_took steps kind) missing).elim
  | cancelDrained steps target drained _ published =>
    refine books.frame rfl ?_ ?_ rfl (fun _ => steps.ready)
    · apply queuedAdmissions_of_took steps.took
      · rw [target.kind]
        exact nofun
      · exact published.commands
    · refine .moves (.single target.holding ?_) (fun _ _ _ tracks => tracks)
      exact (works_requestCancel target.requested).tracks.trans (tracks_beginDraining drained)
  | cancelStuck steps target drained _ queues =>
    refine books.frame rfl ?_ ?_ rfl not_ready
    · apply queuedAdmissions_of_took steps.took
      · rw [target.kind]
        exact nofun
      · exact queues.commands
    · refine .moves (.single target.holding ?_) (fun _ _ _ tracks => tracks)
      exact (works_requestCancel target.requested).tracks.trans (tracks_beginDraining drained)
  | overflowed steps _ claimed full =>
    rcases books.vacancy steps.ready (mem_of_getElem? claimed.found)
        (by simp [claimed.published]) with
      ⟨slot, member, vacant⟩
    exact (full slot member vacant).elim
  | abandoned steps kind claimed written queues =>
    exact books.giveBack steps kind claimed queues.commands rfl written rfl
  | rejected steps kind claimed published =>
    exact books.giveBack steps kind claimed published.commands rfl .same rfl
  | admitted steps kind claimed found vacant created published =>
    exact books.install steps kind claimed found vacant created published.commands rfl rfl rfl
  | completed _ completion completed =>
    refine books.frame rfl ?_ ?_ rfl id
    · exact queuedAdmissions_of_commands completed.emits.frame.1
    · exact .completed completed.slots fun member listed => (completion.valid member listed).applies
  | completionBroken _ completion broken =>
    refine books.frame rfl ?_ ?_ rfl not_ready
    · exact queuedAdmissions_of_commands broken.emits.frame.1
    · exact .broken broken.slots fun member listed => (completion.valid member listed).applies
  | finalized _ target _ _ _ published =>
    rcases finishSequence_ok target.finish with ⟨draining, -⟩
    refine books.finish target.holding draining rfl published.commands rfl
      rfl ?_ (fun ready => ⟨ready, rfl⟩)
    have positive : 0 < runtime.slots.countP isOccupied := by
      rw [countP_pos_iff]
      refine ⟨_, mem_of_getElem? target.holding.1, ?_⟩
      unfold isOccupied
      rw [target.holding.2]
      rfl
    rw [← books.active] at positive
    exact Nat.sub_add_cancel positive
  | finalizeStuck _ target release queues =>
    rcases finishSequence_ok target.finish with ⟨draining, ending⟩
    refine books.finish target.holding draining ?_ queues.commands
      (books.releases target.holding draining release) rfl rfl not_ready
    rcases ending with ⟨-, -, rfl⟩ | ⟨-, -, rfl⟩ <;> rfl

theorem preserved (books : Bookkeeping submitting runtime)
    (transition : Transition runtime call next outcome) : Bookkeeping submitting next := by
  rcases transition.silent_or_request with silent | request
  · exact books.silent silent
  · exact books.request request

end Bookkeeping

/-- A fresh runtime has no requests. -/
theorem Fresh.bookkeeping {limits : ControllerRuntimeLimits}
    (fresh : Fresh limits runtime) : Bookkeeping [] runtime := by
  have free : ∀ (index : ℕ) (slot : RequestSlot),
      runtime.ingress.requests.slots[index]? = some slot →
      slot.state = .free := by
    intro index slot found
    rw [fresh.requestSlots] at found
    rw [eq_of_mem_replicate (mem_of_getElem? found)]
  have admissions : runtime.queuedAdmissions = [] := by
    unfold queuedAdmissions
    rw [fresh.commands]
    rfl
  constructor
  · rw [admissions]
    constructor
    · intro first second slot other found _ used
      exact (used (free first slot found)).elim
    · exact nodup_nil
    · intro command member
      cases member
    · exact nodup_nil
    · intro receipt member
      cases member
    · intro index slot found published
      cases (free index slot found).symm.trans published
  · constructor
    · exact fun _ _ _ live => (fresh.no_holding live.holding).elim
    · exact fun _ _ _ _ _ _ live => (fresh.no_holding live.holding).elim
    · intro index request found claimed
      cases (free index request found).symm.trans claimed
    · unfold claimedCount
      rw [fresh.slots, fresh.requestSlots, countP_replicate, countP_replicate]
      rfl
  · rw [fresh.activeSequenceCount, fresh.slots, countP_replicate]
    rfl
  · exact fun _ _ _ _ holding => (fresh.no_holding holding).elim
  · rw [fresh.slots, fresh.requestSlots, length_replicate, length_replicate]

end ControllerRuntime

end Pih
