import Pih.DeepSeek.ControlEffects
import Pih.Library.Runs

/-!
# Runs of the control plane

Along every run, a request is drained exactly when it is terminal, and the
requests of a committed plan stay in it until the plan completes or fails.
-/

namespace Pih

open DeepSeekPipelineExecution DeepSeekRequestLifecycle DeepSeekRequestRegistry

open DeepSeekRequestLifecycle (Moved)

/-! ## Requests that stay registered -/

namespace DeepSeekRequestRegistry

/-- Every registered request stays registered under its generation. -/
def Keeps (before after : DeepSeekRequestRegistry) : Prop :=
  ∀ id request, before.requests id = some request → ∃ kept, after.requests id = some kept ∧
      kept.requestGeneration = request.requestGeneration

/-- Every registered request is drained exactly when it is terminal. -/
def Settled (registry : DeepSeekRequestRegistry) : Prop :=
  ∀ id request, registry.requests id = some request → request.backendDrained = request.terminal

theorem Keeps.find {id : ℕ} (keeps : Keeps before after)
    (registered : ∃ request, before.find id generation = .ok request) :
    ∃ request, after.find id generation = .ok request := by
  rcases registered with ⟨request, found⟩
  rcases find_ok_iff.mp found with ⟨present, same⟩
  rcases keeps id request present with ⟨kept, there, generation⟩
  exact ⟨kept, find_ok_iff.mpr ⟨there, generation.trans same⟩⟩

theorem Swept.keeps (swept : Swept before after) : Keeps before after := by
  intro id request found
  rcases swept.present id request found with ⟨moved, there, change⟩
  exact ⟨moved, there, change.generation⟩

theorem Swept.settled (swept : Swept before after) (settled : Settled before) : Settled after := by
  intro id request found
  cases earlier : before.requests id with
  | none =>
    rw [swept.absent id earlier] at found
    cases found
  | some old =>
    rcases swept.present id old earlier with ⟨_, there, change⟩
    cases Option.some.inj (there.symm.trans found)
    exact change.settled (settled id old earlier)

theorem keeps_submit {id : ℕ} (free : registry.requests id = none) :
    Keeps registry (registry.set id (some request)) := by
  intro other present found
  refine ⟨present, ?_, rfl⟩
  rw [registry.set_requests_of_ne]
  · exact found
  rintro rfl
  rw [free] at found
  cases found

theorem Settled.set (settled : Settled registry) (id : ℕ) (fresh : ∀ value, request = some value →
      value.backendDrained = value.terminal) :
    Settled (registry.set id request) := by
  intro other value found
  by_cases same : other = id
  · subst same
    rw [registry.set_requests_self] at found
    exact fresh value found
  rw [registry.set_requests_of_ne _ same] at found
  exact settled other value found

end DeepSeekRequestRegistry

open DeepSeekRequestRegistry (Keeps Settled Swept)

namespace DeepSeekPipelineExecution

section Rewriting

variable
    {before after : DeepSeekRequestRegistry}
    {identities : List DeepSeekRequestIdentity}
    {rewrite : DeepSeekRequestIdentity → DeepSeekRequestLifecycle → DeepSeekRequestLifecycle}

variable (rewritten : Rewritten before after identities rewrite)

include rewritten

theorem Rewritten.keeps (generation : ∀ identity request,
      (rewrite identity request).requestGeneration = request.requestGeneration) :
    Keeps before after := by
  intro id request found
  by_cases member : id ∈ identities.map DeepSeekRequestIdentity.requestId
  · rcases List.mem_map.mp member with ⟨identity, inside, rfl⟩
    exact ⟨_, rewritten.members identity inside request found, generation identity request⟩
  · exact ⟨request, (rewritten.others id member).trans found, rfl⟩

theorem Rewritten.settled (present : ∀ identity ∈ identities, ∃ request,
      before.requests identity.requestId = some request ∧
        (rewrite identity request).backendDrained = (rewrite identity request).terminal)
    (settled : Settled before) : Settled after := by
  intro id request found
  by_cases member : id ∈ identities.map DeepSeekRequestIdentity.requestId
  · rcases List.mem_map.mp member with ⟨identity, inside, rfl⟩
    rcases present identity inside with ⟨old, there, fresh⟩
    rw [rewritten.members identity inside old there] at found
    cases found
    exact fresh
  rw [rewritten.others id member] at found
  exact settled id request found

/-- A rewritten request is found under its identity. -/
theorem Rewritten.find (inside : identity ∈ identities)
    (found : before.find identity.requestId identity.requestGeneration = .ok request)
    (generation : (rewrite identity request).requestGeneration = request.requestGeneration) :
    after.find identity.requestId identity.requestGeneration = .ok (rewrite identity request) := by
  rcases find_ok_iff.mp found with ⟨present, same⟩
  exact find_ok_iff.mpr ⟨rewritten.members identity inside request present, generation.trans same⟩

end Rewriting

variable {execution : DeepSeekPipelineExecution}
    {before after : DeepSeekRequestRegistry}

theorem takenBack_generation (plan : ℕ) (request : DeepSeekRequestLifecycle) :
    (request.takenBack plan).requestGeneration = request.requestGeneration := by
  unfold takenBack
  split
  · rfl
  · rfl

theorem drained_generation (terminal : Bool) (request : DeepSeekRequestLifecycle) :
    (request.drained terminal).requestGeneration = request.requestGeneration := by
  unfold drained
  split
  · rfl
  split
  · rfl
  · rfl

theorem drained_settled (terminal : Bool) (request : DeepSeekRequestLifecycle) :
    (request.drained terminal).backendDrained = (request.drained terminal).terminal := by
  unfold drained
  split
  · cases request.failurePending with
    | false | true => rfl
  split
  · rfl
  · rfl

theorem MembersLive.keeps (members : execution.MembersLive before) (kept :
      ∀ id request, before.requests id = some request →
        request.state = .committed ∨ request.state = .draining →
          ∃ moved, after.requests id = some moved ∧ Moved request moved) :
    execution.MembersLive after := by
  intro identity inside
  rcases members identity inside with ⟨request, found, live, plan⟩
  rcases find_ok_iff.mp found with ⟨present, same⟩
  rcases kept _ request present live with ⟨moved, there, change⟩
  rcases change.live live with ⟨still, sequence⟩
  exact ⟨moved, find_ok_iff.mpr ⟨there, change.generation.trans same⟩,
    still, plan.trans sequence.symm⟩

theorem MembersLive.swept (members : execution.MembersLive before)
    (swept : Swept before after) : execution.MembersLive after :=
  members.keeps fun id request found _ => swept.present id request found

/-- The requests of a plan are live once the plan is committed. -/
theorem MembersPrepared.committed (members : execution.MembersPrepared before)
    (rewritten : Rewritten before after execution.requestIdentities
      fun _ request => request.committed) :
    execution.committed.MembersLive after := by
  intro identity inside
  rcases members identity inside with ⟨_, found, -, plan⟩
  exact ⟨_, rewritten.find inside found rfl, .inl rfl, plan⟩

end DeepSeekPipelineExecution

/-! ## The invariant -/

namespace DeepSeekControlPlane

open DeepSeekRequestLifecycle

/-- The invariant of the control plane. -/
structure Sound (plane : DeepSeekControlPlane) : Prop where
  stored : plane.Stored
  settled : plane.shared.requests.Settled
  members : ∀ execution, plane.execution = some execution →
    execution.state = .committed → execution.MembersLive plane.shared.requests

namespace Sound

variable {plane after : DeepSeekControlPlane}

/-- An open request is not drained. -/
theorem not_drained (sound : plane.Sound) {id : ℕ}
    (found : plane.shared.requests.requests id = some request)
    (live : request.terminal = false) : request.backendDrained = false :=
  (sound.settled id request found).trans live

theorem keeps (effect : Effect plane action after) :
    Keeps plane.shared.requests after.shared.requests ∨
      ∃ id generation, action = .retire id generation := by
  have whole : Keeps plane.shared.requests plane.shared.requests :=
    fun _ request found => ⟨request, found, rfl⟩
  cases effect with
  | same | opened | sampled | undone | readied | staged | counted
  | acknowledged => exact .inl whole
  | submitted free => exact .inl (keeps_submit free)
  | moved found change => exact .inl (swept_set (find_ok_iff.mp found).1 change).keeps
  | retired => exact .inr ⟨_, _, rfl⟩
  | prepared _ _ _ created => exact .inl (created.rewritten.keeps fun _ _ => rfl)
  | rejected _ _ _ _ _ rewritten =>
    exact .inl (rewritten.keeps fun _ request => takenBack_generation _ request)
  | withdrawn _ _ _ _ found change _ rewritten =>
    left
    have first := (swept_set (find_ok_iff.mp found).1 (cancel_moved change)).keeps
    have second := rewritten.keeps fun _ request => takenBack_generation _ request
    intro id request present
    rcases first id request present with ⟨middle, there, same⟩
    rcases second id middle there with ⟨last, here, again⟩
    exact ⟨last, here, again.trans same⟩
  | committed _ _ _ _ _ rewritten =>
    exact .inl (rewritten.keeps fun _ _ => rfl)
  | completed _ _ _ _ _ _ _ rewritten =>
    exact .inl (rewritten.keeps fun _ request => drained_generation _ request)

/-- Rolling a prepared plan back keeps requests settled. -/
theorem settled_takenBack {requests : DeepSeekRequestRegistry}
    {execution : DeepSeekPipelineExecution} (settled : before.Settled)
    (registered : ∀ identity ∈ execution.requestIdentities, ∃ request,
      before.find identity.requestId identity.requestGeneration = .ok request)
    (rewritten : execution.RolledBack before requests) :
    requests.Settled := by
  apply rewritten.settled _ settled
  intro identity inside
  rcases registered identity inside with ⟨request, found⟩
  have present := (find_ok_iff.mp found).1
  have old := settled _ request present
  refine ⟨request, present, ?_⟩
  unfold takenBack
  split
  case isTrue prepared =>
    have ended : request.terminal = false := by simp [terminal, prepared.1]
    exact old.trans ended
  · exact old

variable (sound : plane.Sound)

include sound

theorem settled_after (effect : Effect plane action after) : after.shared.requests.Settled := by
  cases effect with
  | same | opened | sampled | undone | readied | staged | counted
  | acknowledged => exact sound.settled
  | submitted =>
    apply sound.settled.set
    rintro _ ⟨⟩
    rfl
  | moved found change =>
    exact (swept_set (find_ok_iff.mp found).1 change).settled sound.settled
  | retired =>
    apply sound.settled.set
    nofun
  | prepared _ _ _ created =>
    apply created.rewritten.settled _ sound.settled
    intro identity inside
    rcases created.admitted identity inside with ⟨request, found, admitted⟩
    have present := (find_ok_iff.mp found).1
    refine ⟨request, present, ?_⟩
    apply sound.not_drained present
    simp [terminal, admitted]
  | rejected _ _ _ members _ rewritten =>
    apply settled_takenBack sound.settled _ rewritten
    intro identity inside
    rcases members identity inside with ⟨request, found, -⟩
    exact ⟨request, found⟩
  | withdrawn _ _ _ members found change _ rewritten =>
    have swept := swept_set (find_ok_iff.mp found).1 (cancel_moved change)
    apply settled_takenBack (swept.settled sound.settled) _ rewritten
    intro identity inside
    rcases members identity inside with ⟨request, there, -⟩
    exact swept.keeps.find ⟨request, there⟩
  | committed _ _ _ members _ rewritten =>
    apply rewritten.settled _ sound.settled
    intro identity inside
    rcases members identity inside with ⟨request, found, prepared, -⟩
    have present := (find_ok_iff.mp found).1
    refine ⟨request, present, ?_⟩
    apply sound.not_drained present
    simp [terminal, prepared]
  | completed _ _ _ members _ _ _ rewritten =>
    apply rewritten.settled _ sound.settled
    intro identity inside
    rcases members identity inside with ⟨request, found, -⟩
    exact ⟨request, (find_ok_iff.mp found).1, drained_settled _ request⟩

theorem stored_after (effect : Effect plane action after) : after.Stored := by
  intro execution live
  cases effect with
  | prepared _ _ _ created =>
    cases live
    exact created.stored
  | readied before preparing still transaction =>
    cases live
    have old := sound.stored _ before
    refine ⟨old.distinct, .inl ⟨still, ?_⟩⟩
    rw [transaction]
    exact old.transaction_prepared preparing
  | rejected | withdrawn | completed => cases live
  | committed before =>
    cases live
    exact ⟨(sound.stored _ before).distinct, .inr (.inl ⟨rfl, rfl⟩)⟩
  | counted before =>
    cases live
    have old := sound.stored _ before
    refine ⟨old.distinct, ?_⟩
    exact old.phase
  | _ => exact sound.stored execution live

theorem members_after (effect : Effect plane action after) (execution : DeepSeekPipelineExecution)
    (live : after.execution = some execution)
    (state : execution.state = .committed) :
    execution.MembersLive after.shared.requests := by
  cases effect with
  | submitted free =>
    apply (sound.members execution live state).keeps
    intro id request found _
    refine ⟨request, ?_, .refl request⟩
    refine (set_requests_of_ne _ _ ?_).trans found
    rintro rfl
    rw [free] at found
    cases found
  | moved found change =>
    exact (sound.members execution live state).swept (swept_set (find_ok_iff.mp found).1 change)
  | @retired _ _ request found drained =>
    apply (sound.members execution live state).keeps
    intro other value present open_
    refine ⟨value, ?_, .refl value⟩
    refine (set_requests_of_ne _ _ ?_).trans present
    rintro rfl
    have there := (find_ok_iff.mp found).1
    cases Option.some.inj (there.symm.trans present)
    have ended := sound.settled _ request present
    rw [drained] at ended
    rcases open_ with open_ | open_
    · simp [terminal, open_] at ended
    · simp [terminal, open_] at ended
  | prepared _ _ _ created =>
    cases live
    rw [created.state] at state
    cases state
  | readied _ _ still =>
    cases live
    exact absurd state (state_ne_of_preparing still (by decide))
  | rejected | withdrawn | completed => cases live
  | committed _ _ _ members _ rewritten =>
    cases live
    exact members.committed rewritten
  | counted before committed =>
    cases live
    have members := sound.members _ before committed
    exact members
  | _ => exact sound.members execution live state

theorem effect (effect : Effect plane action after) : after.Sound :=
  ⟨sound.stored_after effect, sound.settled_after effect, sound.members_after effect⟩

theorem sweep (sweep : Sweep plane after) : after.Sound := by
  cases sweep with
  | swept sweep =>
    exact
      { stored := sound.stored
        settled := sweep.settled sound.settled
        members := fun execution live state => (sound.members execution live state).swept sweep }
  | failed before sweep =>
    exact
      { stored := by
          rintro execution ⟨⟩
          exact ⟨(sound.stored _ before).distinct, .inr (.inr rfl)⟩
        settled := sweep.settled sound.settled
        members := by
          rintro _ ⟨⟩ state
          cases state }

end Sound

theorem create_ok {engineEpoch : ℕ} (created : create engineEpoch capacity = .ok plane) :
    ∃ resources, DeepSeekPipelineResourceSet.create capacity = .ok resources ∧ plane =
      { engineEpoch
        shared := ⟨{}, resources⟩
        outputCredits := ⟨⟨kBoundaryCredits, 1, 5, 64, 1048576⟩,
          List.replicate kBoundaryCredits {}⟩ } := by
  unfold create at created
  split at created
  · cases created
  split at created
  · cases created
  case h_2 resources built =>
    refine ⟨resources, built, ?_⟩
    exact (Except.ok.inj created).symm

theorem sound_of_create {engineEpoch : ℕ}
    (created : create engineEpoch capacity = .ok plane) : plane.Sound := by
  rcases create_ok created with ⟨_, -, rfl⟩
  exact ⟨nofun, nofun, nofun⟩

theorem Sound.execute {plane : DeepSeekControlPlane} (sound : plane.Sound)
    (action : Action) : (plane.execute action).1.Sound := by
  rcases execute_effect sound.stored action with effect | ⟨-, sweep⟩
  · exact sound.effect effect
  · exact sound.sweep sweep

end DeepSeekControlPlane

end Pih
