import Pih.Scheduler.ControllerRequestArena

/-!
# The controller ingress

The ingress joins the mailbox and the request arena: an admission publishes
its payload before it queues the command that refers to it, and takes the
payload back if the command cannot be queued.
-/

namespace Pih

structure ControllerIngressLimits where
  mailbox : ControllerMailboxLimits
  requests : ControllerRequestArenaLimits
deriving DecidableEq

structure ControllerAdmissionView where
  command : ControllerCommand
  request : ControllerRequestView
deriving DecidableEq

structure ControllerIngressCommandView where
  command : ControllerCommand
  request : Option ControllerRequestView
deriving DecidableEq

def controllerCancelPayloadDigest (epoch requestGeneration : ℕ) : Result Sha256Digest :=
  if epoch = 0 ∨ requestGeneration = 0 then
    .error (.invalidArgument "controller cancel identity is invalid")
  else
    Sha256.ofPieces [asciiBytes "pih-controller-cancel-v1", u64Bytes epoch,
        u64Bytes requestGeneration]

/-- The mailbox and the payloads of its admissions. -/
structure ControllerIngress where
  mailbox : ControllerMailbox
  requests : ControllerRequestArena
deriving DecidableEq

namespace ControllerIngress

def create (limits : ControllerIngressLimits) : Result ControllerIngress :=
  match ControllerMailbox.create limits.mailbox with
  | .error status => .error status
  | .ok mailbox =>
    match ControllerRequestArena.create limits.requests with
    | .error status => .error status
    | .ok requests => .ok ⟨mailbox, requests⟩

/-! The three atomic parts of an admission, in the order it takes them. -/

variable (ingress : ControllerIngress)

def publishRequest (requestGeneration : ℕ) (promptTokenIds : List ℕ)
    (maximumNewTokens : ℕ) (sampling : ControllerRequestSampling) :
    ControllerIngress × Result ControllerRequestReceipt :=
  let published :=
    ingress.requests.publish requestGeneration promptTokenIds maximumNewTokens sampling
  ({ ingress with requests := published.1 }, published.2)

def submitCommand (kind : ControllerCommandKind)
    (epoch requestGeneration : ℕ) (payloadDigest : Sha256Digest) :
    ControllerIngress × Result ControllerCommand :=
  let submitted := ingress.mailbox.submitCommand kind epoch requestGeneration payloadDigest
  ({ ingress with mailbox := submitted.1 }, submitted.2)

def rollbackRequest (receipt : ControllerRequestReceipt) : ControllerIngress × Result Unit :=
  let rolledBack := ingress.requests.rollbackPublished receipt
  ({ ingress with requests := rolledBack.1 }, rolledBack.2)

/-- Publish a payload and queue its admission. -/
def submitAdmit (epoch requestGeneration : ℕ) (promptTokenIds : List ℕ)
    (maximumNewTokens : ℕ) (sampling : ControllerRequestSampling) :
    ControllerIngress × Result ControllerCommand :=
  if epoch = 0 then (ingress, .error (.invalidArgument "controller admission epoch is invalid"))
  else
    match ingress.publishRequest requestGeneration promptTokenIds maximumNewTokens sampling with
    | (published, .error status) => (published, .error status)
    | (published, .ok receipt) =>
      match published.submitCommand .admission epoch requestGeneration receipt.payloadDigest with
      | (submitted, .ok command) => (submitted, .ok command)
      | (submitted, .error status) =>
        match submitted.rollbackRequest receipt with
        | (rolledBack, .error _) =>
          (rolledBack, .error (.internal "controller admission rollback failed"))
        | (rolledBack, .ok ()) => (rolledBack, .error status)

def submitCancel (epoch requestGeneration : ℕ) : ControllerIngress × Result ControllerCommand :=
  match controllerCancelPayloadDigest epoch requestGeneration with
  | .error status => (ingress, .error status)
  | .ok digest => ingress.submitCommand .cancel epoch requestGeneration digest

/-- Take a command, and claim the payload it names. -/
def tryTakeCommand (thread : ThreadId) :
    ControllerIngress × Result (Option ControllerIngressCommandView) :=
  match ingress.mailbox.tryTakeCommand thread with
  | (mailbox, .error status) => ({ ingress with mailbox }, .error status)
  | (mailbox, .ok none) => ({ ingress with mailbox }, .ok none)
  | (mailbox, .ok (some command)) =>
    if command.kind = .admission then
      match ingress.requests.claim command.requestGeneration command.payloadDigest with
      | (requests, .error _) =>
        (⟨mailbox, requests⟩, .error (.internal
          "controller command has no matching request payload"))
      | (requests, .ok request) => (⟨mailbox, requests⟩, .ok (some ⟨command, some request⟩))
    else ({ ingress with mailbox }, .ok (some ⟨command, none⟩))

def releaseRequest (request : ControllerRequestView) : ControllerIngress × Result Unit :=
  let released := ingress.requests.releaseClaimed request.slotIndex request.slotGeneration
  ({ ingress with requests := released.1 }, released.2)

def publishEvent (thread : ThreadId) (draft : ControllerOutputEventDraft) :
    ControllerIngress × Result ControllerOutputEvent :=
  let published := ingress.mailbox.publishEvent thread draft
  ({ ingress with mailbox := published.1 }, published.2)

def tryTakeEvent : ControllerIngress × Result (Option ControllerOutputEvent) :=
  let taken := ingress.mailbox.tryTakeEvent
  ({ ingress with mailbox := taken.1 }, taken.2)

def queuedCommandCount : ℕ := ingress.mailbox.commandSize

def availableEventCredit : ℕ := ingress.mailbox.eventAvailableCapacity

def queuedEventCount : ℕ := ingress.mailbox.eventSize

end ControllerIngress

end Pih
