import Pih.DeepSeek.BatchEngine
import Mathlib.Logic.Function.Basic

/-!
# The life cycle of a DeepSeek request

A request is admitted when it is submitted, prepared and committed with a
plan, and admitted again when the plan completes, unless it was cancelled or
failed in between: then it drains until the plan completes.  The registry
finds a request by its identifier and compares the generation.
-/

namespace Pih

/-- The states of a request. -/
inductive DeepSeekRequestState where
  | submitted
  | admitted
  | prepared
  | committed
  | draining
  | completed
  | cancelled
  | failed
deriving DecidableEq, Repr

/-- A request, without the identifier under which it is registered. -/
structure DeepSeekRequestLifecycle where
  requestGeneration : ℕ
  planSequence : ℕ := 0
  state : DeepSeekRequestState := .submitted
  userTerminal : Bool := false
  backendDrained : Bool := false
  failurePending : Bool := false
deriving DecidableEq, Repr

namespace DeepSeekRequestLifecycle

def create (requestId requestGeneration : ℕ) : Result DeepSeekRequestLifecycle :=
  if requestId = 0 ∨ requestGeneration = 0 then
    .error (.invalidArgument "DeepSeek request identity must be nonzero")
  else .ok { requestGeneration }

variable (request : DeepSeekRequestLifecycle)

def terminal : Bool := request.state = .completed ∨ request.state = .cancelled ∨
    request.state = .failed

def admitRequest : Result DeepSeekRequestLifecycle :=
  if request.state ≠ .submitted then
    .error (.failedPrecondition "DeepSeek request cannot be admitted")
  else .ok { request with state := .admitted }

section

variable (plan : ℕ)

def validatePrepare : Result Unit :=
  if request.state ≠ .admitted ∨ plan = 0 then
    .error (.failedPrecondition "DeepSeek request cannot prepare a plan")
  else .ok ()

def prepare : Result DeepSeekRequestLifecycle :=
  match request.validatePrepare plan with
  | .error status => .error status
  | .ok () => .ok { request with planSequence := plan, state := .prepared }

def validateCommit : Result Unit :=
  if request.state ≠ .prepared ∨ plan ≠ request.planSequence then
    .error (.failedPrecondition "DeepSeek request plan cannot commit")
  else .ok ()

def commit : Result DeepSeekRequestLifecycle :=
  match request.validateCommit plan with
  | .error status => .error status
  | .ok () => .ok { request with state := .committed }

def validateAbortPrepare : Result Unit :=
  if request.state ≠ .prepared ∨ plan ≠ request.planSequence then
    .error (.failedPrecondition "DeepSeek request prepared plan cannot abort")
  else .ok ()

def abortPrepare : Result DeepSeekRequestLifecycle :=
  match request.validateAbortPrepare plan with
  | .error status => .error status
  | .ok () => .ok { request with planSequence := 0, state := .admitted }

end

def validateCancel (generation : ℕ) : Result Unit :=
  if generation ≠ request.requestGeneration then
    .error (.invalidArgument "DeepSeek request generation does not match")
  else if request.state = .draining ∨ request.state = .cancelled then .ok ()
  else if request.terminal then
    .error (.failedPrecondition "DeepSeek terminal request cannot cancel")
  else .ok ()

def cancel (generation : ℕ) : Result DeepSeekRequestLifecycle :=
  match request.validateCancel generation with
  | .error status => .error status
  | .ok () =>
    if request.state = .draining ∨ request.state = .cancelled then .ok request
    else if request.state = .committed then
      .ok { request with userTerminal := true, state := .draining }
    else
      .ok
        { request with
          userTerminal := true
          state := .cancelled
          backendDrained := true
          planSequence := 0 }

def validateBackendComplete (plan : ℕ) : Result Unit :=
  if (request.state ≠ .committed ∧ request.state ≠ .draining) ∨ plan = 0 ∨
      plan ≠ request.planSequence then
    .error (.failedPrecondition "DeepSeek request completion does not match committed plan")
  else .ok ()

/-- End the plan of a request, and the request if terminal. -/
def backendComplete (plan : ℕ) (terminal : Bool) : Result DeepSeekRequestLifecycle :=
  match request.validateBackendComplete plan with
  | .error status => .error status
  | .ok () =>
    if request.state = .draining then
      .ok
        { request with
          backendDrained := true
          planSequence := 0
          state := if request.failurePending then .failed else .cancelled }
    else if ¬ terminal then
      .ok { request with backendDrained := false, planSequence := 0, state := .admitted }
    else
      .ok
        { request with
          backendDrained := true
          planSequence := 0
          state := .completed
          userTerminal := true }

def fail : Result DeepSeekRequestLifecycle :=
  if request.terminal then .error (.failedPrecondition "DeepSeek request is already terminal")
  else
    let drained : Bool := request.state ≠ .committed ∧ request.state ≠ .draining
    .ok
      { request with
        userTerminal := true
        failurePending := true
        backendDrained := drained
        state := if drained then .failed else .draining }

def finish : Result DeepSeekRequestLifecycle :=
  if request.state ≠ .admitted ∨ request.userTerminal then
    .error (.failedPrecondition "DeepSeek request cannot publish completion in its current state")
  else .ok { request with state := .completed, userTerminal := true, backendDrained := true }

end DeepSeekRequestLifecycle

/-- The requests under their identifiers. -/
structure DeepSeekRequestRegistry where
  requests : ℕ → Option DeepSeekRequestLifecycle := fun _ => none

namespace DeepSeekRequestRegistry

variable (registry : DeepSeekRequestRegistry) (id : ℕ) (generation : ℕ)

def find : Result DeepSeekRequestLifecycle :=
  match registry.requests id with
  | none => .error (.invalidArgument "DeepSeek request identity is not live")
  | some request =>
    if request.requestGeneration ≠ generation then
      .error (.invalidArgument "DeepSeek request identity is not live")
    else .ok request

def set (request : Option DeepSeekRequestLifecycle) : DeepSeekRequestRegistry :=
  ⟨Function.update registry.requests id request⟩

/-- A check of the request that is found. -/
def validate (check : DeepSeekRequestLifecycle → Result Unit) : Result Unit :=
  match registry.find id generation with
  | .error status => .error status
  | .ok request => check request

/-- A change of the request that is found. -/
def change (update : DeepSeekRequestLifecycle → Result DeepSeekRequestLifecycle) :
    DeepSeekRequestRegistry × Result Unit :=
  match registry.find id generation with
  | .error status => (registry, .error status)
  | .ok request =>
    match update request with
    | .error status => (registry, .error status)
    | .ok updated => (registry.set id (some updated), .ok ())

def submit : DeepSeekRequestRegistry × Result Unit :=
  if (registry.requests id).isSome then
    (registry, .error (.failedPrecondition "DeepSeek request ID is already live"))
  else
    match DeepSeekRequestLifecycle.create id generation with
    | .error status => (registry, .error status)
    | .ok request =>
      match request.admitRequest with
      | .error status => (registry, .error status)
      | .ok admitted => (registry.set id (some admitted), .ok ())

section

variable (registry : DeepSeekRequestRegistry) (id : ℕ) (generation : ℕ) (plan : ℕ)

def validatePrepare : Result Unit := registry.validate id generation fun request =>
    request.validatePrepare plan

def prepare : DeepSeekRequestRegistry × Result Unit :=
  registry.change id generation fun request => request.prepare plan

def validateCommit : Result Unit :=
  registry.validate id generation fun request => request.validateCommit plan

def commit : DeepSeekRequestRegistry × Result Unit :=
  registry.change id generation fun request => request.commit plan

def validateAbortPrepare : Result Unit := registry.validate id generation fun request =>
    request.validateAbortPrepare plan

def abortPrepare : DeepSeekRequestRegistry × Result Unit :=
  registry.change id generation fun request => request.abortPrepare plan

def validateCancel : Result Unit := registry.validate id generation fun request =>
    request.validateCancel generation

def cancel : DeepSeekRequestRegistry × Result Unit :=
  registry.change id generation fun request => request.cancel generation

def validateBackendComplete : Result Unit := registry.validate id generation fun request =>
    request.validateBackendComplete plan

def backendComplete (terminal : Bool) : DeepSeekRequestRegistry × Result Unit :=
  registry.change id generation fun request => request.backendComplete plan terminal

end

def validateRetire : Result Unit := registry.validate id generation fun request =>
    if ¬ request.userTerminal ∨ ¬ request.backendDrained then
      .error (.failedPrecondition "DeepSeek request cannot retire before terminal drain")
    else .ok ()

def retire : DeepSeekRequestRegistry × Result Unit :=
  match registry.validateRetire id generation with
  | .error status => (registry, .error status)
  | .ok () => (registry.set id none, .ok ())

def fail : DeepSeekRequestRegistry × Result Unit :=
  registry.change id generation fun request => request.fail

def finish : DeepSeekRequestRegistry × Result Unit :=
  registry.change id generation fun request => request.finish

/-- A change of every request that is not terminal for its user. -/
def changeAll (update : DeepSeekRequestLifecycle → Result DeepSeekRequestLifecycle) :
    DeepSeekRequestRegistry where
  requests id := (registry.requests id).map fun request =>
      if request.userTerminal then request
      else
        match update request with
        | .error _ => request
        | .ok updated => updated

def failAll : DeepSeekRequestRegistry := registry.changeAll fun request => request.fail

def cancelAll : DeepSeekRequestRegistry :=
  registry.changeAll fun request => request.cancel request.requestGeneration

def state : Result DeepSeekRequestState :=
  match registry.find id generation with
  | .error status => .error status
  | .ok request => .ok request.state

end DeepSeekRequestRegistry

end Pih
