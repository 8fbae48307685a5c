import Pih.DeepSeek.ControlRuns
import Mathlib.Data.List.Nodup

/-!
# The accepted tokens of a request

The tokens of a request are those of the batches that were staged for it in
plans that completed while it was still committed.  A staged batch was
checked against the ledger of its request, and that ledger does not change
until the plan completes.
-/

namespace Pih

open DeepSeekPipelineExecution DeepSeekRequestLifecycle List Option

/-! ## One ledger -/

namespace DeepSeekLedger

/-- A batch that ends the request before its limit. -/
def stops (batch : DeepSeekAcceptedTokenBatch) : Prop :=
  batch.finishReason = .stop ∨ batch.finishReason = .toolCalls

theorem not_stops (other : batch.finishReason ≠ .stop ∧ batch.finishReason ≠ .toolCalls) :
    ¬ stops batch :=
  fun stop => stop.elim other.1 other.2

/-- What a batch that passes the checks is like. -/
structure Acceptable (ledger : DeepSeekLedger) (batch : DeepSeekAcceptedTokenBatch) : Prop where
  unfinished : ledger.finishReason = .none
  nonempty : batch.tokenIds ≠ []
  fits : batch.tokenIds.length ≤ ledger.maximumCompletionTokens - ledger.tokenIds.length
  vocabulary : ∀ token ∈ batch.tokenIds, token < 129280
  receipts : ledger.checkReceipts batch = .ok ()
  minimum : stops batch → ledger.minimumCompletionTokens ≤
    ledger.tokenIds.length + batch.tokenIds.length
  maximum : batch.finishReason = .length → ledger.tokenIds.length + batch.tokenIds.length =
    ledger.maximumCompletionTokens

theorem validateBatch_ok_iff (ledger : DeepSeekLedger) (batch : DeepSeekAcceptedTokenBatch) :
    ledger.validateBatch batch = .ok () ↔ Acceptable ledger batch := by
  unfold validateBatch
  dsimp only
  split
  case isTrue refused =>
    refine ⟨nofun, fun acceptable => ?_⟩
    rcases refused with finished | empty | large
    · exact absurd acceptable.unfinished finished
    · exact absurd empty acceptable.nonempty
    · exact absurd acceptable.fits (Nat.not_le.mpr large)
  rename_i live
  rw [not_or, not_or, not_not, Nat.not_lt] at live
  split
  case isTrue outside =>
    refine ⟨nofun, fun acceptable => ?_⟩
    rcases any_eq_true.mp outside with ⟨token, member, large⟩
    exact absurd (acceptable.vocabulary token member) (Nat.not_lt.mpr (of_decide_eq_true large))
  rename_i inside
  have vocabulary : ∀ token ∈ batch.tokenIds, token < 129280 := by
    intro token member
    by_contra large
    apply inside
    rw [List.any_eq_true]
    exact ⟨token, member, decide_eq_true (Nat.not_lt.mp large)⟩
  split
  case h_1 refused =>
    refine ⟨nofun, fun acceptable => ?_⟩
    rw [acceptable.receipts] at refused
    cases refused
  rename_i receipts
  split
  case isTrue early =>
    refine ⟨nofun, fun acceptable => ?_⟩
    exact absurd (acceptable.minimum early.1) (Nat.not_le.mpr early.2)
  rename_i late
  split
  case isTrue short =>
    refine ⟨nofun, fun acceptable => ?_⟩
    exact absurd (acceptable.maximum short.1) short.2
  rename_i full
  refine ⟨fun _ => ?_, fun _ => rfl⟩
  exact
    { unfinished := live.1
      nonempty := live.2.1
      fits := live.2.2
      vocabulary
      receipts
      minimum := fun stop => Nat.not_lt.mp fun early => late ⟨stop, early⟩
      maximum := fun length => by
        by_contra other
        exact full ⟨length, other⟩ }

/-- The ledger holds exactly what the batches brought. -/
structure Exact (ledger : DeepSeekLedger) (batches : List DeepSeekAcceptedTokenBatch) : Prop where
  tokens : ledger.tokenIds = batches.flatMap fun batch => batch.tokenIds
  bounded : ledger.tokenIds.length ≤ ledger.maximumCompletionTokens
  positive : 0 < ledger.maximumCompletionTokens
  ordinal : ledger.sampleOrdinal = (batches.flatMap fun batch => batch.samplingReceipts).length
  unfinished : ledger.finishReason = .none →
    ledger.tokenIds.length < ledger.maximumCompletionTokens ∧
      ∀ batch ∈ batches, batch.finishReason = .none
  full : ledger.finishReason = .length ↔ ledger.tokenIds.length = ledger.maximumCompletionTokens ∧
      ∀ batch ∈ batches, ¬ stops batch
  stopped : ledger.finishReason = .stop ∨ ledger.finishReason = .toolCalls →
    ledger.minimumCompletionTokens ≤ ledger.tokenIds.length
  started : ledger.finishReason ≠ .none → ledger.tokenIds ≠ []

theorem exact_opened {maximum : ℕ} {minimum : ℕ} (positive : maximum ≠ 0) : Exact
    { promptTokenCount := prompt
      maximumCompletionTokens := maximum
      minimumCompletionTokens := minimum } [] where
  tokens := rfl
  bounded := Nat.zero_le _
  positive := Nat.pos_of_ne_zero positive
  ordinal := rfl
  unfinished := fun _ => ⟨Nat.pos_of_ne_zero positive, nofun⟩
  full := by
    constructor
    · nofun
    · rintro ⟨empty, -⟩
      exact absurd empty.symm positive
  stopped := by
    rintro (stop | stop)
    · cases stop
    · cases stop
  started := fun ended => absurd rfl ended

theorem Exact.accept (exact_ : Exact ledger batches) (acceptable : Acceptable ledger batch) :
    Exact (ledger.accept batch) (batches ++ [batch]) := by
  have earlier := exact_.unfinished acceptable.unfinished
  have length : (ledger.accept batch).tokenIds.length =
      ledger.tokenIds.length + batch.tokenIds.length :=
    length_append
  have fits := acceptable.fits
  have bounded : ledger.tokenIds.length + batch.tokenIds.length ≤
      ledger.maximumCompletionTokens := by
    omega
  have finish : (ledger.accept batch).finishReason =
      if batch.finishReason = .none ∧ ledger.tokenIds.length + batch.tokenIds.length =
          ledger.maximumCompletionTokens then
        .length
      else
        batch.finishReason := by
    unfold DeepSeekLedger.accept
    dsimp only
    rw [length_append]
  have quiet : ¬ stops batch → ∀ other ∈ batches ++ [batch], ¬ stops other := by
    intro last other member
    rcases mem_append.mp member with old | new
    · exact not_stops (by rw [earlier.2 other old]; decide)
    rw [mem_singleton.mp new]
    exact last
  refine
    { tokens := ?_
      bounded := ?_
      positive := exact_.positive
      ordinal := ?_
      unfinished := ?_
      full := ?_
      stopped := ?_
      started := ?_ }
  · rw [flatMap_append, ← exact_.tokens]
    rw [flatMap_singleton]
    rfl
  · rw [length]
    exact bounded
  · rw [flatMap_append, length_append, ← exact_.ordinal, flatMap_singleton]
    rfl
  · intro open_
    rw [finish] at open_
    split at open_
    · cases open_
    rename_i short
    constructor
    · rw [length]
      apply Nat.lt_of_le_of_ne bounded
      exact fun full => short ⟨open_, full⟩
    · intro other member
      rcases mem_append.mp member with old | new
      · exact earlier.2 other old
      rw [mem_singleton.mp new]
      exact open_
  · rw [length, finish]
    constructor
    · intro ended
      split at ended
      case isTrue reached => exact ⟨reached.2, quiet (not_stops (by rw [reached.1]; decide))⟩
      exact ⟨acceptable.maximum ended, quiet (not_stops (by rw [ended]; decide))⟩
    · rintro ⟨reached, all⟩
      have last : ¬ stops batch := all batch (mem_append_right _ (mem_singleton_self _))
      cases reason : batch.finishReason with
      | none => exact if_pos ⟨rfl, reached⟩
      | stop => exact absurd (Or.inl reason) last
      | length => exact if_neg fun both => nomatch both.1
      | toolCalls => exact absurd (Or.inr reason) last
  · intro ended
    rw [length]
    rw [finish] at ended
    apply acceptable.minimum
    split at ended
    · rcases ended with ended | ended
      · cases ended
      · cases ended
    · exact ended
  · exact fun _ => append_ne_nil_of_right_ne_nil _ acceptable.nonempty

end DeepSeekLedger

namespace DeepSeekControlPlane

open DeepSeekRequestRegistry (find_ok_iff state_ok_iff)
open DeepSeekLedger (Acceptable Exact)

abbrev ControlEntry := Entry DeepSeekControlPlane Action (Result Unit)

abbrev ControlHistory := List ControlEntry

/-! ## What a history brought to a request -/

def committedRequest (requests : DeepSeekRequestRegistry)
    (identity : DeepSeekRequestIdentity) : Bool :=
  match requests.state identity.requestId identity.requestGeneration with
  | .ok .committed => true
  | _ => false

/--
The batch that is staged for a request that is neither cancelled nor failed.
-/
def stagedFor (plane : DeepSeekControlPlane) (key : ℕ × ℕ) : Option DeepSeekAcceptedTokenBatch :=
  match plane.execution, plane.tentativeAccepted with
  | some execution, some tentative =>
    ((execution.requestIdentities.zip tentative.batches).find? fun pair =>
        pair.1.key = key ∧ committedRequest plane.shared.requests pair.1).map Prod.snd
  | _, _ => none

/-- The batch that a request got from a plan that this call completed. -/
def acceptedBy (key : ℕ × ℕ) (entry : ControlEntry) : Option DeepSeekAcceptedTokenBatch :=
  match entry.action with
  | .stageComplete _ =>
    if entry.before.execution.isSome ∧ entry.after.execution.isNone then entry.before.stagedFor key
    else none
  | _ => none

/-- The call opened the ledger of a request. -/
def openedBy (key : ℕ × ℕ) (entry : ControlEntry) : Bool :=
  match entry.action, entry.outcome with
  | .configureLedger id generation _ _ _, .ok () => (id, generation) = key
  | _, _ => false

/-- The batches that a request got since its ledger was opened. -/
def received (key : ℕ × ℕ) (history : ControlHistory) : List DeepSeekAcceptedTokenBatch :=
  history.foldl (fun batches entry =>
      if openedBy key entry then []
      else batches ++ (acceptedBy key entry).toList) []

theorem received_snoc (key : ℕ × ℕ) (history : ControlHistory) (entry : ControlEntry) :
    received key (history ++ [entry]) =
      if openedBy key entry then []
      else
        received key history ++ (acceptedBy key entry).toList := by
  unfold received
  rw [foldl_append]
  rfl

/-! ## Taking staged batches over -/

section Accepting

variable {ledgers : ℕ × ℕ → Option DeepSeekLedger}

theorem acceptBatches_cons (pair : DeepSeekRequestIdentity × DeepSeekAcceptedTokenBatch)
    (rest : List (DeepSeekRequestIdentity × DeepSeekAcceptedTokenBatch)) :
    acceptBatches requests ledgers (pair :: rest) = acceptBatches requests
      (if survives requests pair.1 then
        Function.update ledgers pair.1.key
          ((ledgers pair.1.key).map fun ledger => ledger.accept pair.2)
      else
        ledgers) rest := by
  rw [acceptBatches]
  split
  · rfl
  · rfl

theorem acceptBatches_other (outside : ∀ pair ∈ pairs, pair.1.key ≠ key) :
    acceptBatches requests ledgers pairs key = ledgers key := by
  induction pairs generalizing ledgers with
  | nil => rfl
  | cons pair _ hypothesis =>
    rw [acceptBatches_cons, hypothesis fun other member => outside other (mem_cons_of_mem _ member)]
    have different := outside pair mem_cons_self
    split
    · exact Function.update_of_ne different.symm _ _
    · rfl

theorem acceptBatches_member (distinct : (pairs.map fun pair => pair.1.key).Nodup)
    (member : pair ∈ pairs) :
    acceptBatches requests ledgers pairs pair.1.key =
      if survives requests pair.1 then (ledgers pair.1.key).map fun ledger => ledger.accept pair.2
      else
        ledgers pair.1.key := by
  induction pairs generalizing ledgers with
  | nil => cases member
  | cons first _ hypothesis =>
    rw [map_cons, nodup_cons] at distinct
    rw [acceptBatches_cons]
    rcases mem_cons.mp member with rfl | inside
    · rw [acceptBatches_other]
      · split
        · exact Function.update_self _ _ _
        · rfl
      intro other there same
      apply distinct.1
      rw [← same]
      exact mem_map_of_mem there
    rw [hypothesis distinct.2 inside]
    have different : pair.1.key ≠ first.1.key := by
      intro same
      apply distinct.1
      rw [← same]
      exact mem_map_of_mem inside
    have kept : (if survives requests first.1 then
          Function.update ledgers first.1.key ((ledgers first.1.key).map fun ledger =>
            ledger.accept first.2)
        else
          ledgers) pair.1.key = ledgers pair.1.key := by
      split
      · exact Function.update_of_ne different _ _
      · rfl
    rw [kept]

end Accepting

variable {execution : DeepSeekPipelineExecution}

/-- Different members of an execution have different keys. -/
theorem keys_distinct (stored : execution.Stored)
    {batches : List DeepSeekAcceptedTokenBatch}
    (length : batches.length = execution.requestIdentities.length) :
    ((execution.requestIdentities.zip batches).map fun pair => pair.1.key).Nodup := by
  have keys : (execution.requestIdentities.zip batches).map (fun pair => pair.1.key) =
      execution.requestIdentities.map DeepSeekRequestIdentity.key := by
    have first := map_fst_zip (Nat.le_of_eq length.symm)
    rw [← first, List.map_map, first]
    rfl
  rw [keys]
  apply List.Nodup.of_map Prod.fst
  rw [List.map_map]
  exact stored.distinct

/-- The staged batches were checked against ledgers that are still there. -/
def Staged (plane : DeepSeekControlPlane) : Prop :=
  ∀ tentative, plane.tentativeAccepted = some tentative →
    ∃ execution, plane.execution = some execution ∧ execution.state = .committed ∧
      tentative.batches.length = execution.requestIdentities.length ∧
      ∀ pair ∈ execution.requestIdentities.zip tentative.batches,
        ∃ ledger, plane.ledgers pair.1.key = some ledger ∧ Acceptable ledger pair.2

/-- A live member survives its plan if it was not drained. -/
theorem survives_of_live {after : DeepSeekRequestRegistry} (members : execution.MembersLive before)
    (rewritten : Rewritten before after execution.requestIdentities fun identity request =>
      request.drained identity.terminalOnComplete)
    (inside : identity ∈ execution.requestIdentities) :
    survives after identity = committedRequest before identity := by
  rcases members identity inside with ⟨request, found, live, -⟩
  have there := rewritten.find inside found (drained_generation _ _)
  have first : before.state identity.requestId identity.requestGeneration = .ok request.state :=
    state_ok_iff.mpr ⟨request, found, rfl⟩
  have second : after.state identity.requestId identity.requestGeneration =
      .ok (request.drained identity.terminalOnComplete).state :=
    state_ok_iff.mpr ⟨_, there, rfl⟩
  unfold survives committedRequest
  rw [first, second]
  unfold drained
  rcases live with live | live
  · rw [live]
    cases identity.terminalOnComplete with
    | false | true => rfl
  rw [live]
  cases request.failurePending with
  | false | true => simp

variable {plane : DeepSeekControlPlane}

/-- What a completion does to the ledger under a key. -/
theorem ledgers_completed (key : ℕ × ℕ) (stored : plane.Stored) (staged : plane.Staged)
    (live : plane.execution = some execution)
    (members : execution.MembersLive plane.shared.requests)
    (rewritten : Rewritten plane.shared.requests requests execution.requestIdentities
        fun identity request => request.drained identity.terminalOnComplete) :
    (match plane.tentativeAccepted with
      | none => plane.ledgers
      | some tentative =>
        acceptBatches requests plane.ledgers
          (execution.requestIdentities.zip tentative.batches)) key =
      match plane.stagedFor key with
      | none => plane.ledgers key
      | some batch =>
        (plane.ledgers key).map fun ledger => ledger.accept batch := by
  unfold stagedFor
  rw [live]
  cases tentative : plane.tentativeAccepted with
  | none => rfl
  | some tentative_ =>
    rcases staged tentative_ tentative with ⟨_, same, -, length, -⟩
    cases some.inj (live.symm.trans same)
    have distinct := keys_distinct (stored execution live) length
    dsimp only
    cases found : (execution.requestIdentities.zip tentative_.batches).find? fun pair =>
            decide (pair.1.key = key ∧ committedRequest plane.shared.requests pair.1) with
    | some =>
      have member := mem_of_find?_eq_some found
      have holds := find?_some found
      simp only [decide_eq_true_eq] at holds
      have inside := (of_mem_zip member).1
      rcases holds with ⟨rfl, committed⟩
      rw [acceptBatches_member distinct member,
        survives_of_live members rewritten inside, committed]
      rfl
    | none =>
      have absent := find?_eq_none.mp found
      by_cases named : ∃ pair ∈ execution.requestIdentities.zip tentative_.batches, pair.1.key = key
      · rcases named with ⟨pair, member, rfl⟩
        have inside := (of_mem_zip member).1
        have drained : committedRequest plane.shared.requests pair.1 = false := by
          rw [← Bool.not_eq_true]
          intro committed
          exact absent pair member (decide_eq_true ⟨rfl, committed⟩)
        rw [acceptBatches_member distinct member,
          survives_of_live members rewritten inside, drained]
        rfl
      apply acceptBatches_other
      intro pair member same
      exact named ⟨pair, member, same⟩

/-- A batch that a completion takes over was checked. -/
theorem stagedFor_acceptable (staged : plane.Staged) (found : plane.stagedFor key = some batch) :
    ∃ ledger, plane.ledgers key = some ledger ∧ Acceptable ledger batch := by
  unfold stagedFor at found
  split at found
  case h_1 tentative live held =>
    rcases staged tentative held with ⟨_, same, -, -, checked⟩
    cases some.inj (live.symm.trans same)
    rcases map_eq_some_iff.mp found with ⟨pair, there, rfl⟩
    have holds := find?_some there
    simp only [decide_eq_true_eq] at holds
    rcases checked pair (mem_of_find?_eq_some there) with ⟨ledger, present, acceptable⟩
    rw [holds.1] at present
    exact ⟨ledger, present, acceptable⟩
  · cases found

theorem validateBatches_ok (valid : plane.validateBatches pairs = .ok ()) :
    ∀ pair ∈ pairs, ∃ ledger, plane.ledgers pair.1.key = some ledger ∧
      Acceptable ledger pair.2 := by
  induction pairs with
  | nil => nofun
  | cons _ _ hypothesis =>
    rw [validateBatches] at valid
    split at valid
    · cases valid
    rename_i ledger present
    split at valid
    · cases valid
    rename_i checked
    intro pair member
    rcases mem_cons.mp member with rfl | inside
    · exact ⟨ledger, present, (ledger.validateBatch_ok_iff _).mp checked⟩
    · exact hypothesis valid pair inside

/-! ## Steps -/

structure Accepted (history : ControlHistory) (plane : DeepSeekControlPlane) : Prop where
  sound : plane.Sound
  staged : plane.Staged
  exact_ : ∀ key ledger, plane.ledgers key = some ledger → Exact ledger (received key history)

section Steps

variable {plane after : DeepSeekControlPlane}

/-- A request with staged tokens is live in the plan. -/
theorem Sound.staged_live (sound : plane.Sound) (live : plane.execution = some execution)
    (state : execution.state = .committed)
    {pair : DeepSeekRequestIdentity × DeepSeekAcceptedTokenBatch}
    (member : pair ∈ execution.requestIdentities.zip batches) {id : ℕ}
    (same : pair.1.key = (id, generation))
    (found : plane.shared.requests.find id generation = .ok request) :
    request.state = .committed ∨ request.state = .draining := by
  rcases sound.members execution live state pair.1
      (of_mem_zip member).1 with ⟨_, there, running, -⟩
  rcases Prod.mk.inj same with ⟨rfl, rfl⟩
  cases Except.ok.inj (found.symm.trans there)
  exact running

/-- Staged tokens stay as they were checked while other ledgers change. -/
theorem Staged.setLedger (staged : plane.Staged) {key : ℕ × ℕ} (ledger : Option DeepSeekLedger)
    (apart : ∀ execution tentative, plane.execution = some execution →
      plane.tentativeAccepted = some tentative →
      execution.state = .committed →
      ∀ pair ∈ execution.requestIdentities.zip tentative.batches, pair.1.key ≠ key) :
    (plane.setLedger key ledger).Staged := by
  intro tentative held
  rcases staged tentative held with ⟨execution, live, state, length, all⟩
  refine ⟨execution, live, state, length, fun pair member => ?_⟩
  rcases all pair member with ⟨old, present, acceptable⟩
  refine ⟨old, ?_, acceptable⟩
  refine Eq.trans ?_ present
  exact Function.update_of_ne (apart execution tentative live held state pair member) _ _

theorem staged_after (sound : plane.Sound) (staged : plane.Staged)
    (effect : Effect plane action after) : after.Staged := by
  cases effect with
  | @retired id _ request found drained =>
    have kept := @Staged.setLedger plane staged _ none
        (fun execution tentative live held state pair member same => by
          have ended := sound.settled id request (find_ok_iff.mp found).1
          rw [drained] at ended
          rcases sound.staged_live live state member same found with running | running
          · simp [terminal, running] at ended
          · simp [terminal, running] at ended)
    exact kept
  | @opened _ _ _ _ _ _ _ free =>
    apply staged.setLedger
    intro execution tentative live held state pair member same
    rcases staged tentative held with ⟨other, again, -, -, all⟩
    cases some.inj (live.symm.trans again)
    rcases all pair member with ⟨ledger, present, -⟩
    rw [same, free] at present
    cases present
  | @sampled _ _ _ _ admitted =>
    apply staged.setLedger
    intro execution tentative live held state pair member same
    rcases state_ok_iff.mp admitted with ⟨_, there, waiting⟩
    rcases sound.staged_live live state member same there with running | running
    · rw [waiting] at running
      cases running
    rw [waiting] at running
    cases running
  | prepared idle =>
    intro tentative held
    rcases staged tentative held with ⟨execution, live, -⟩
    rw [idle] at live
    cases live
  | readied before preparing | withdrawn before held_ preparing
  | committed before _ preparing =>
    intro tentative held
    rcases staged tentative held with ⟨execution, live, state, -⟩
    cases some.inj (before.symm.trans live)
    exact absurd state (state_ne_of_preparing preparing (by decide))
  | rejected | completed => rintro _ ⟨⟩
  | @staged _ _ execution live state _ length valid =>
      rintro tentative ⟨⟩
      have all := validateBatches_ok valid
      exact ⟨execution, live, state, length, all⟩
  | @counted _ _ before state =>
    intro tentative held
    rcases staged tentative held with ⟨_, live, -, length, all⟩
    cases some.inj (before.symm.trans live)
    exact ⟨_, rfl, state, length, all⟩
  | _ => exact staged

theorem staged_sweep (staged : plane.Staged) (sweep : Sweep plane after) : after.Staged := by
  cases sweep with
  | swept => exact staged
  | failed => nofun

theorem configureLedger_of_valid {id maximum minimum : ℕ}
    (admitted : plane.shared.requests.state id generation = .ok .admitted)
    (bounds : minimum ≤ maximum ∧ maximum ≠ 0 ∧ prompt ≠ 0 ∧ prompt ≤ u64Max - maximum)
    (free : plane.ledgers (id, generation) = none) :
    (plane.configureLedger id generation prompt maximum minimum).2 = .ok () := by
  rcases bounds with ⟨ordered, bounded, prompted, fits⟩
  unfold configureLedger
  rw [admitted]
  dsimp only
  rw [if_neg, if_neg]
  · rw [free]
    nofun
  rintro (other | zero | zero | large | large)
  · exact other rfl
  · exact prompted zero
  · exact bounded zero
  · exact Nat.not_lt.mpr ordered large
  · exact Nat.not_lt.mpr fits large

theorem configureLedger_ok {id maximum minimum : ℕ} (done :
      (plane.configureLedger id generation prompt maximum minimum).2 = .ok ()) :
    maximum ≠ 0 ∧ (plane.configureLedger id generation prompt maximum
          minimum).1.ledgers (id, generation) =
        some
          { promptTokenCount := prompt
            maximumCompletionTokens := maximum
            minimumCompletionTokens := minimum } := by
  revert done
  unfold configureLedger
  split
  · nofun
  split
  · nofun
  case isFalse valid =>
    split
    · nofun
    intro _
    refine ⟨fun zero => valid (.inr (.inr (.inl zero))), ?_⟩
    exact Function.update_self _ _ _

/-- Only a call that completes a plan brings tokens. -/
theorem acceptedBy_none (kept :
      entry.before.execution.isSome = true → entry.after.execution.isSome = true) :
    acceptedBy key entry = none := by
  unfold acceptedBy
  split
  · rw [if_neg]
    rintro ⟨live, idle⟩
    have still := kept live
    rw [isNone_iff_eq_none.mp idle] at still
    cases still
  · rfl

theorem acceptedBy_completed (action : entry.action = .stageComplete rank)
    (live : entry.before.execution.isSome = true)
    (idle : entry.after.execution = none) :
    acceptedBy key entry = entry.before.stagedFor key := by
  unfold acceptedBy
  rw [action]
  exact if_pos ⟨live, isNone_iff_eq_none.mpr idle⟩

/-- The ledger under a key after a call that did not open it. -/
theorem exact_unopened (accepted : Accepted history plane)
    (effect : Effect plane action (plane.execute action).1)
    (unopened : openedBy key (.of execute plane action) = false)
    (present : (plane.execute action).1.ledgers key = some ledger) :
    Exact ledger (received key history ++ (acceptedBy key (.of execute plane action)).toList) := by
  have unchanged : acceptedBy key (.of execute plane action) = none →
      plane.ledgers key = some ledger →
      Exact ledger (received key history ++
        (acceptedBy key (.of execute plane action)).toList) := by
    intro none old
    rw [none, toList_none, append_nil]
    exact accepted.exact_ key ledger old
  have entryAfter : (Entry.of execute plane action).after = (plane.execute action).1 := rfl
  generalize next : (plane.execute action).1 = after at *
  cases effect with
  | same =>
    refine unchanged (acceptedBy_none fun live => ?_) present
    rw [entryAfter]
    exact live
  | submitted | readied | undone | prepared | rejected | withdrawn
  | committed | staged | acknowledged => exact unchanged rfl present
  | moved =>
    refine unchanged (acceptedBy_none fun live => ?_) present
    rw [entryAfter]
    exact live
  | @retired id generation =>
    apply unchanged rfl
    change Function.update plane.ledgers (id, generation) none key = some ledger at present
    by_cases same : key = (id, generation)
    · subst same
      rw [Function.update_self] at present
      cases present
    rw [Function.update_of_ne same] at present
    exact present
  | @opened id generation prompt maximum minimum admitted bounds free =>
    have different : key ≠ (id, generation) := by
      rintro rfl
      have done := configureLedger_of_valid admitted bounds free
      have opened : openedBy (id, generation) (.of execute plane
          (.configureLedger id generation prompt maximum minimum)) = true := by
        unfold Entry.of execute
        rw [done]
        exact decide_eq_true rfl
      rw [unopened] at opened
      cases opened
    apply unchanged rfl
    exact (Function.update_of_ne different _ _).symm.trans present
  | @sampled id generation config old _ found =>
    by_cases same : key = (id, generation)
    · subst same
      have value : Function.update plane.ledgers (id, generation)
          (some { old with sampling := some config }) _ = some ledger := present
      rw [Function.update_self] at value
      cases value
      have before := accepted.exact_ _ old found
      change Exact _ (received _ history ++ [])
      rw [append_nil]
      exact { before with }
    apply unchanged rfl
    exact (Function.update_of_ne same _ _).symm.trans present
  | @completed rank execution _ _ live _ _ members _ _ _ rewritten =>
    have taken := ledgers_completed key accepted.sound.stored accepted.staged live members rewritten
    have value := taken.symm.trans present
    have brought : acceptedBy key (.of execute plane (.stageComplete rank)) =
        plane.stagedFor key := by
      apply acceptedBy_completed rfl
      · exact isSome_iff_exists.mpr ⟨execution, live⟩
      · rw [entryAfter]
    rw [brought]
    cases batch : plane.stagedFor key with
    | none =>
      rw [batch] at value
      rw [toList_none, append_nil]
      exact accepted.exact_ key ledger value
    | some =>
      rw [batch] at value
      rcases stagedFor_acceptable accepted.staged batch with ⟨old, found, acceptable⟩
      rw [found] at value
      cases value
      exact (accepted.exact_ key old found).accept acceptable
  | counted =>
    refine unchanged (acceptedBy_none fun _ => ?_) present
    rw [entryAfter]
    rfl

theorem sweep_ledgers (sweep : Sweep plane after) : after.ledgers = plane.ledgers := by
  cases sweep with
  | swept | failed => rfl

theorem Accepted.step (accepted : Accepted history plane) (action : Action) :
    Accepted (history ++ [.of execute plane action]) (plane.execute action).1 := by
  have reached := execute_effect accepted.sound.stored action
  refine ⟨accepted.sound.execute action, ?_, ?_⟩
  · rcases reached with effect | ⟨-, sweep⟩
    · exact staged_after accepted.sound accepted.staged effect
    · exact staged_sweep accepted.staged sweep
  · intro key ledger present
    rw [received_snoc]
    cases opened : openedBy key (.of execute plane action) with
    | true =>
      unfold openedBy at opened
      split at opened
      case h_1 kind done =>
        cases kind
        cases of_decide_eq_true opened
        rcases configureLedger_ok done with ⟨positive, value⟩
        cases some.inj (value.symm.trans present)
        exact DeepSeekLedger.exact_opened positive
      · cases opened
    | false =>
      rw [if_neg nofun]
      rcases reached with effect | ⟨loud, sweep⟩
      · exact exact_unopened accepted effect opened present
      have nothing : acceptedBy key (.of execute plane action) = none := by
        cases action with
        | stageComplete => cases loud
        | _ => rfl
      rw [nothing, toList_none, append_nil]
      rw [sweep_ledgers sweep] at present
      exact accepted.exact_ key ledger present

/-- A finished ledger stays as it is until its request is retired. -/
theorem Accepted.finished (accepted : Accepted history plane)
    (present : plane.ledgers key = some ledger)
    (ended : ledger.finishReason ≠ .none) (action : Action) :
    (plane.execute action).1.ledgers key = some ledger ∨ action = .retire key.1 key.2 := by
  rcases execute_effect accepted.sound.stored action with effect | ⟨-, sweep⟩
  · generalize (plane.execute action).1 = after at *
    cases effect with
    | @retired id generation =>
      by_cases same : key = (id, generation)
      · subst same
        exact .inr rfl
      left
      exact (Function.update_of_ne same _ _).trans present
    | @opened _ _ _ _ _ _ _ free =>
      left
      refine (Function.update_of_ne ?_ _ _).trans present
      rintro rfl
      rw [free] at present
      cases present
    | @sampled _ _ _ _ _ found _ empty =>
      left
      refine (Function.update_of_ne ?_ _ _).trans present
      rintro rfl
      cases some.inj (found.symm.trans present)
      exact (accepted.exact_ _ _ present).started ended empty
    | @completed rank execution lease requests live held state members
        owned there holds rewritten =>
      left
      refine (ledgers_completed key accepted.sound.stored accepted.staged
        live members rewritten).trans ?_
      cases batch : plane.stagedFor key with
      | none => exact present
      | some =>
        rcases stagedFor_acceptable accepted.staged batch with ⟨_, found, acceptable⟩
        cases some.inj (found.symm.trans present)
        exact absurd acceptable.unfinished ended
    | _ => exact .inl present
  left
  rw [sweep_ledgers sweep]
  exact present

end Steps

abbrev ControlRun (initial : DeepSeekControlPlane) (history : ControlHistory)
    (state : DeepSeekControlPlane) : Prop :=
  Run execute (fun _ _ _ => True) initial history state

theorem accepted_of_run {engineEpoch : ℕ} {state : DeepSeekControlPlane}
    (created : create engineEpoch capacity = .ok initial)
    (run : ControlRun initial history state) : Accepted history state := by
  have start : Accepted [] initial := by
    have sound := sound_of_create created
    rcases create_ok created with ⟨_, -, rfl⟩
    exact ⟨sound, nofun, nofun⟩
  apply run.invariant Accepted start
  intro history state action _ accepted _
  exact accepted.step action

theorem stageAcceptedTokens_refused (plane : DeepSeekControlPlane)
    {planSequence : ℕ}
    (refused : (plane.stageAcceptedTokens planSequence batches).2 = .error status) :
    (plane.stageAcceptedTokens planSequence batches).1 = plane := by
  revert refused
  unfold stageAcceptedTokens
  split
  · exact fun _ => rfl
  split
  · exact fun _ => rfl
  split
  · exact fun _ => rfl
  · nofun

end DeepSeekControlPlane

end Pih
