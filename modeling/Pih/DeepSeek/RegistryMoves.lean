import Pih.DeepSeek.PipelineExecution

/-!
# What the registry changes

A change of one request leaves every other request alone.  A loop over the
requests of a plan, whose identifiers are distinct, therefore either stops
before it changes anything that was not checked, or rewrites every request of
the plan from the value that it had before the loop.
-/

namespace Pih

open DeepSeekRequestIdentity List

namespace DeepSeekRequestRegistry

variable {id : ℕ}

theorem find_ok_iff {registry : DeepSeekRequestRegistry} :
    registry.find id generation = .ok request ↔ registry.requests id = some request ∧
      request.requestGeneration = generation := by
  unfold find
  cases found : registry.requests id with
  | none => simp
  | some present =>
    by_cases same : present.requestGeneration = generation
    · simp only [same, ne_eq, not_true_eq_false]
      constructor
      · rintro ⟨⟩
        exact ⟨rfl, same⟩
      · rintro ⟨⟨⟩, -⟩
        rfl
    simp only [ne_eq, same, not_false_eq_true]
    constructor
    · nofun
    · rintro ⟨⟨⟩, equal⟩
      exact absurd equal same

theorem state_ok_iff {registry : DeepSeekRequestRegistry} {state : DeepSeekRequestState} :
    registry.state id generation = .ok state ↔
      ∃ request, registry.find id generation = .ok request ∧ request.state = state := by
  unfold DeepSeekRequestRegistry.state
  cases registry.find id generation with
  | error | ok => simp

variable (registry : DeepSeekRequestRegistry)

theorem validate_ok_iff (id generation : ℕ) (check : DeepSeekRequestLifecycle → Result Unit) :
    registry.validate id generation check = .ok () ↔
      ∃ request, registry.find id generation = .ok request ∧ check request = .ok () := by
  unfold validate
  cases registry.find id generation with
  | error | ok => simp

theorem change_of_find {registry : DeepSeekRequestRegistry}
    (found : registry.find id generation = .ok request) (changed : update request = .ok updated) :
    registry.change id generation update = (registry.set id (some updated), .ok ()) := by
  simp only [change, found, changed]

theorem change_cases (id generation : ℕ)
    (update : DeepSeekRequestLifecycle → Result DeepSeekRequestLifecycle) :
    (∃ status, registry.change id generation update = (registry, .error status)) ∨
      ∃ request updated, registry.find id generation = .ok request ∧ update request = .ok updated ∧
        registry.change id generation update = (registry.set id (some updated), .ok ()) := by
  cases found : registry.find id generation with
  | error status =>
    left
    exact ⟨status, by simp only [change, found]⟩
  | ok request =>
    cases changed : update request with
    | error status =>
      left
      exact ⟨status, by simp only [change, found, changed]⟩
    | ok updated =>
      right
      exact ⟨request, updated, rfl, changed, change_of_find found changed⟩

@[simp]
theorem set_requests_self (id : ℕ) (request : Option DeepSeekRequestLifecycle) :
    (registry.set id request).requests id = request := by
  simp [set]

theorem set_requests_of_ne (registry : DeepSeekRequestRegistry)
    (request : Option DeepSeekRequestLifecycle) (different : other ≠ id) :
    (registry.set id request).requests other = registry.requests other := by
  simp [set, different]

theorem find_set_of_ne (registry : DeepSeekRequestRegistry)
    (generation : ℕ) (request : Option DeepSeekRequestLifecycle) (different : other ≠ id) :
    (registry.set id request).find other generation = registry.find other generation := by
  simp only [find, registry.set_requests_of_ne request different]

/-- A request that is found stays, unless it is the one that is replaced. -/
theorem find_set_cases {registry : DeepSeekRequestRegistry}
    (found : registry.find id generation = .ok old) (there : registry.find other number = .ok kept)
    (request : Option DeepSeekRequestLifecycle) :
    (registry.set id request).find other number = .ok kept ∨
      other = id ∧ number = generation ∧ kept = old := by
  rcases eq_or_ne other id with rfl | different
  · have first := find_ok_iff.mp found
    have second := find_ok_iff.mp there
    cases Option.some.inj (first.1.symm.trans second.1)
    exact .inr ⟨rfl, second.2.symm.trans first.2, rfl⟩
  · exact .inl ((registry.find_set_of_ne _ _ different).trans there)

end DeepSeekRequestRegistry

namespace DeepSeekPipelineExecution

open DeepSeekRequestRegistry

theorem validateAll_ok_iff (check : DeepSeekRequestIdentity → Result Unit)
    (identities : List DeepSeekRequestIdentity) :
    validateAll check identities = .ok () ↔ ∀ identity ∈ identities, check identity = .ok () := by
  induction identities with
  | nil => simp [validateAll]
  | cons identity _ hypothesis =>
    rw [forall_mem_cons, ← hypothesis, validateAll]
    cases check identity with
    | error | ok => simp

theorem checkIdentities_ok (checked : checkIdentities seen identities = .ok ()) :
    (identities.map requestId).Nodup ∧ ∀ identity ∈ identities, identity.requestId ∉ seen := by
  induction identities generalizing seen with
  | nil => exact ⟨nodup_nil, by simp⟩
  | cons identity _ hypothesis =>
    rw [checkIdentities] at checked
    split at checked
    · cases checked
    case isFalse valid =>
      have inner := hypothesis checked
      have unseen : identity.requestId ∉ seen := fun member => valid (.inr (.inr member))
      constructor
      · rw [map_cons, nodup_cons]
        refine ⟨fun member => ?_, inner.1⟩
        rcases mem_map.mp member with ⟨other, inside, same⟩
        apply inner.2 other inside
        rw [same]
        exact mem_cons_self
      · intro other member
        rcases mem_cons.mp member with rfl | inside
        · exact unseen
        exact fun old => inner.2 other inside (mem_cons_of_mem _ old)

/--
Every request of the list is rewritten from its value before the loop, and no
other request is touched.
-/
structure Rewritten (before after : DeepSeekRequestRegistry)
    (identities : List DeepSeekRequestIdentity)
    (rewrite : DeepSeekRequestIdentity → DeepSeekRequestLifecycle →
      DeepSeekRequestLifecycle) : Prop where
  members : ∀ identity ∈ identities, ∀ request, before.requests identity.requestId = some request →
      after.requests identity.requestId = some (rewrite identity request)
  others : ∀ id, id ∉ identities.map requestId → after.requests id = before.requests id

theorem Rewritten.nil (registry : DeepSeekRequestRegistry) (rewrite :
      DeepSeekRequestIdentity → DeepSeekRequestLifecycle → DeepSeekRequestLifecycle) :
    Rewritten registry registry [] rewrite where
  members := by simp
  others := fun _ _ => rfl

/-- One request is rewritten first and the others after it. -/
theorem Rewritten.cons {before after : DeepSeekRequestRegistry}
    {identity : DeepSeekRequestIdentity} {rest : List DeepSeekRequestIdentity}
    {rewrite : DeepSeekRequestIdentity → DeepSeekRequestLifecycle → DeepSeekRequestLifecycle}
    {request : DeepSeekRequestLifecycle} (found : before.requests identity.requestId = some request)
    (fresh : identity.requestId ∉ rest.map requestId)
    (later : Rewritten (before.set identity.requestId (some (rewrite identity request)))
      after rest rewrite) :
    Rewritten before after (identity :: rest) rewrite where
  members := by
    intro member inside value present
    rcases mem_cons.mp inside with rfl | inside
    · cases Option.some.inj (found.symm.trans present)
      rw [later.others _ fresh]
      exact before.set_requests_self _ _
    apply later.members member inside value
    rw [before.set_requests_of_ne]
    · exact present
    · exact fun same => fresh (same ▸ mem_map_of_mem inside)
  others := by
    intro id outside
    rw [map_cons, mem_cons, not_or] at outside
    rw [later.others id outside.2]
    exact before.set_requests_of_ne _ outside.1

section Loops

variable
    {registry : DeepSeekRequestRegistry}
    {identities : List DeepSeekRequestIdentity}
    {rewrite : DeepSeekRequestIdentity → DeepSeekRequestLifecycle → DeepSeekRequestLifecycle}

/-- Every request of the list is found and can be changed. -/
def Changeable (update : DeepSeekRequestIdentity → DeepSeekRequestLifecycle →
        Result DeepSeekRequestLifecycle)
    (rewrite : DeepSeekRequestIdentity → DeepSeekRequestLifecycle → DeepSeekRequestLifecycle)
    (registry : DeepSeekRequestRegistry) (identities : List DeepSeekRequestIdentity) : Prop :=
  ∀ identity ∈ identities, ∃ request,
    registry.find identity.requestId identity.requestGeneration = .ok request ∧
      update identity request = .ok (rewrite identity request)

/-- The rest of the list can still be changed after its first request. -/
theorem Changeable.rest {rest : List DeepSeekRequestIdentity}
    (changeable : Changeable update rewrite registry (identity :: rest))
    (fresh : identity.requestId ∉ rest.map requestId) (request : Option DeepSeekRequestLifecycle) :
    Changeable update rewrite (registry.set identity.requestId request) rest := by
  intro member inside
  rcases changeable member (mem_cons_of_mem _ inside) with ⟨value, found, changed⟩
  refine ⟨value, ?_, changed⟩
  rw [registry.find_set_of_ne]
  · exact found
  · exact fun same => fresh (same ▸ mem_map_of_mem inside)

theorem changeAll_rewritten (distinct : (identities.map requestId).Nodup)
    (changeable : Changeable update rewrite registry identities) :
    ∃ after, changeAll (fun registry identity =>
        registry.change identity.requestId identity.requestGeneration
          (update identity)) registry identities = (after, .ok ()) ∧
      Rewritten registry after identities rewrite := by
  induction identities generalizing registry with
  | nil => exact ⟨registry, rfl, .nil registry rewrite⟩
  | cons identity _ hypothesis =>
    rw [map_cons, nodup_cons] at distinct
    rcases changeable identity mem_cons_self with ⟨_, found, changed⟩
    rcases hypothesis distinct.2 (changeable.rest distinct.1 (some _)) with ⟨after, loop, later⟩
    refine ⟨after, ?_, ?_⟩
    · simp only [changeAll, change_of_find found changed]
      exact loop
    · exact later.cons (find_ok_iff.mp found).1 distinct.1

theorem prepareRequests_rewritten (prior : List DeepSeekRequestIdentity)
    (distinct : (identities.map requestId).Nodup)
    (changeable : Changeable (fun _ request => request.prepare plan) rewrite registry identities) :
    ∃ after, prepareRequests plan registry prior identities = (after, .ok ()) ∧
      Rewritten registry after identities rewrite := by
  induction identities generalizing registry prior with
  | nil => exact ⟨registry, rfl, .nil registry rewrite⟩
  | cons identity _ hypothesis =>
    rw [map_cons, nodup_cons] at distinct
    rcases changeable identity mem_cons_self with ⟨request, found, changed⟩
    rcases hypothesis _ distinct.2 (changeable.rest distinct.1 (some _)) with ⟨after, loop, later⟩
    refine ⟨after, ?_, ?_⟩
    · have prepared : registry.prepare identity.requestId identity.requestGeneration plan =
          (registry.set identity.requestId (some (rewrite identity request)), .ok ()) :=
        change_of_find found changed
      simp only [prepareRequests, prepared]
      exact loop
    · exact later.cons (find_ok_iff.mp found).1 distinct.1

/-- A loop of conditional changes. -/
theorem foldl_rewritten (distinct : (identities.map requestId).Nodup)
    (present : ∀ identity ∈ identities, ∃ request,
        registry.find identity.requestId identity.requestGeneration = .ok request)
    (one : ∀ registry identity request,
        registry.find identity.requestId identity.requestGeneration = .ok request →
          step registry identity = registry.set identity.requestId
            (some (rewrite identity request))) :
    Rewritten registry (identities.foldl step registry) identities
      rewrite := by
  induction identities generalizing registry with
  | nil => exact .nil registry rewrite
  | cons identity _ hypothesis =>
    rw [map_cons, nodup_cons] at distinct
    rcases present identity mem_cons_self with ⟨request, found⟩
    rw [foldl_cons, one registry identity request found]
    refine Rewritten.cons (find_ok_iff.mp found).1 distinct.1 ?_
    apply hypothesis distinct.2
    intro member inside
    rcases present member (mem_cons_of_mem _ inside) with ⟨value, kept⟩
    refine ⟨value, ?_⟩
    rw [registry.find_set_of_ne]
    · exact kept
    · exact fun same => distinct.1 (same ▸ mem_map_of_mem inside)

end Loops

end DeepSeekPipelineExecution

end Pih
