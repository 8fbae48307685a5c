import Pih.Core.Status
import Mathlib.Data.List.Basic
import Mathlib.Algebra.GroupWithZero.Nat

/-!
# Pools of attention pages

Compressed attention state lies in pages that a pool hands out by slot and
generation.  A page is reserved for a sequence, a layer and a logical page,
and becomes visible when it is published; the last page of a sequence is
replaced by a copy, whose publication frees the page that it was copied from.

The ratio-4 pool hands out pairs of a main page and an index page, the
ratio-128 pool single pages.  Their operations differ in the pages, in the
states that a slot keeps and in their messages only, so they are one family
of definitions over a shape.
-/

namespace Pih

/-! ## Handles -/

inductive DeepSeekStatePoolKind where
  | recentBf16
  | ratio4MainBf16
  | ratio4IndexBf16
  | ratio128MainBf16
deriving DecidableEq, Repr

def DeepSeekStatePoolKind.code : DeepSeekStatePoolKind → ℕ
  | .recentBf16 => 1
  | .ratio4MainBf16 => 2
  | .ratio4IndexBf16 => 3
  | .ratio128MainBf16 => 4

/-- A 64-bit value: the kind, 24 bits of slot and 32 bits of generation. -/
structure DeepSeekBlockHandle where
  value : ℕ := 0
deriving DecidableEq, Repr

namespace DeepSeekBlockHandle

def kSlotMask : ℕ := 16777215

/-- Every kind is known, so only the slot and the generation can fail. -/
def create (kind : DeepSeekStatePoolKind) (slot generation : ℕ) : Result DeepSeekBlockHandle :=
  if slot > kSlotMask ∨ generation = 0 then
    .error (.invalidArgument "DeepSeek block handle is invalid")
  else .ok ⟨kind.code * 2 ^ 56 + slot * 2 ^ 32 + generation⟩

variable (handle : DeepSeekBlockHandle)

def poolKind : ℕ := handle.value / 2 ^ 56

def slot : ℕ := handle.value / 2 ^ 32 % (kSlotMask + 1)

def generation : ℕ := handle.value % 2 ^ 32

end DeepSeekBlockHandle

/-- What a page belongs to. -/
structure DeepSeekPageIdentity where
  sequence : ℕ := 0
  layerId : ℕ := 0
  logicalPage : ℕ := 0
deriving DecidableEq, Repr

/-- A main page and its index page. -/
structure DeepSeekRatio4PagePair where
  main : DeepSeekBlockHandle
  index : DeepSeekBlockHandle
  identity : DeepSeekPageIdentity
  generation : ℕ
deriving DecidableEq, Repr

/-- A page with its handle. -/
structure DeepSeekRatio128Page where
  handle : DeepSeekBlockHandle
  identity : DeepSeekPageIdentity
deriving DecidableEq, Repr

/-- Where a page is in its life. -/
inductive DeepSeekAttentionPageState where
  | free
  | reserved
  | published
deriving DecidableEq, Repr

/-! ## Pools -/

structure AttentionPageSlot (Cells : Type) where
  generation : ℕ := 0
  identity : DeepSeekPageIdentity := {}
  cells : Cells
deriving DecidableEq, Repr

/-- A pool of pages with its three counters. -/
structure AttentionPagePool (Cells : Type) where
  slots : List (AttentionPageSlot Cells)
  freeCount : ℕ
  reservedCount : ℕ := 0
  publishedCount : ℕ := 0
  generationExhausted : Bool := false
deriving DecidableEq, Repr

/--
In what the two pools differ.  A slot keeps the states of its pages in
`Cells`; a page names its slot and generation unless its handles are
malformed.
-/
structure AttentionPageShape (Page Cells : Type) where
  fill : DeepSeekAttentionPageState → Cells
  lead : Cells → DeepSeekAttentionPageState
  every : DeepSeekAttentionPageState → Cells → Bool
  any : DeepSeekAttentionPageState → Cells → Bool
  identity : Page → DeepSeekPageIdentity
  locate : Page → Option (ℕ × ℕ)
  makePage : ℕ → ℕ → DeepSeekPageIdentity → Result Page
  countInvalid : String
  identityInvalid : String
  epochRebuild : String
  pageExists : String
  handleFailed : Option String
  poolExhausted : String
  handleInvalid : String
  pageStale : String
  cowInvalid : String
  stillReserved : String

namespace AttentionPagePool

variable {Page Cells : Type}

variable (shape : AttentionPageShape Page Cells)

def create (pages : ℕ) : Result (AttentionPagePool Cells) :=
  if pages = 0 ∨ pages > DeepSeekBlockHandle.kSlotMask + 1 then
    .error (.invalidArgument shape.countInvalid)
  else .ok { slots := List.replicate pages { cells := shape.fill .free }, freeCount := pages }

section

variable (pool : AttentionPagePool Cells)

/-- Take the first free slot under a new generation. -/
def reserveFree (identity : DeepSeekPageIdentity) : AttentionPagePool Cells × Result Page :=
  match pool.slots.zipIdx.find? fun entry =>
      shape.every .free entry.1.cells with
  | none => (pool, .error (.resourceExhausted shape.poolExhausted))
  | some (slot, ordinal) =>
    if slot.generation = u32Max then
      ({ pool with generationExhausted := true }, .error (.failedPrecondition shape.epochRebuild))
    else
      match shape.makePage ordinal (slot.generation + 1) identity with
      | .error status =>
        let counted :=
          { pool with
            slots := pool.slots.set ordinal { slot with generation := slot.generation + 1 } }
        match shape.handleFailed with
        | none => (counted, .error status)
        | some message => ({ counted with generationExhausted := true }, .error (.internal message))
      | .ok page =>
        ({ pool with
            slots := pool.slots.set ordinal ⟨slot.generation + 1, identity, shape.fill .reserved⟩
            freeCount := pool.freeCount - 1
            reservedCount := pool.reservedCount + 1 },
          .ok page)

/-- Reserve a page for an identity that has none. -/
def reserve (identity : DeepSeekPageIdentity) : AttentionPagePool Cells × Result Page :=
  if identity.sequence = 0 ∨ identity.layerId ≥ 43 then
    (pool, .error (.invalidArgument shape.identityInvalid))
  else if pool.generationExhausted then (pool, .error (.failedPrecondition shape.epochRebuild))
  else if pool.slots.any fun slot => shape.lead slot.cells ≠ .free ∧ slot.identity = identity then
    (pool, .error (.failedPrecondition shape.pageExists))
  else pool.reserveFree shape identity

/-- The slot of a page that is current and in the expected state. -/
def validate (page : Page) (expected : DeepSeekAttentionPageState) : Result ℕ :=
  match shape.locate page with
  | none => .error (.invalidArgument shape.handleInvalid)
  | some (ordinal, generation) =>
    match pool.slots[ordinal]? with
    | none => .error (.invalidArgument shape.handleInvalid)
    | some slot =>
      if slot.generation ≠ generation ∨ slot.identity ≠ shape.identity page ∨
          ¬ shape.every expected slot.cells then
        .error (.failedPrecondition shape.pageStale)
      else .ok ordinal

/-- Reserve the copy of a published page. -/
def reserveTailCow (committed : Page) : AttentionPagePool Cells × Result Page :=
  match pool.validate shape committed .published with
  | .error status => (pool, .error status)
  | .ok _ =>
    if pool.generationExhausted then (pool, .error (.failedPrecondition shape.epochRebuild))
    else pool.reserveFree shape (shape.identity committed)

/-- All pages of a slot enter a state. -/
def fillSlot (ordinal : ℕ) (state : DeepSeekAttentionPageState) : AttentionPagePool Cells :=
  { pool with
    slots := pool.slots.modify ordinal fun slot => { slot with cells := shape.fill state } }

end

/-- Publish a reserved page. -/
def publish (pool : AttentionPagePool Cells) (page : Page) :
    AttentionPagePool Cells × Result Unit :=
  match pool.validate shape page .reserved with
  | .error status => (pool, .error status)
  | .ok ordinal =>
    ({ pool.fillSlot shape ordinal .published with
        reservedCount := pool.reservedCount - 1
        publishedCount := pool.publishedCount + 1 }, .ok ())

section

variable (pool : AttentionPagePool Cells)

def validatePublish (page : Page) : Result Unit :=
  match pool.validate shape page .reserved with
  | .error status => .error status
  | .ok _ => .ok ()

/-- The slots of a copy and of the page that it replaces. -/
def tailCowSlots (committed replacement : Page) : Result (ℕ × ℕ) :=
  match pool.validate shape committed .published with
  | .error status => .error status
  | .ok source =>
    match pool.validate shape replacement .reserved with
    | .error status => .error status
    | .ok target =>
      if source = target ∨ shape.identity committed ≠ shape.identity replacement then
        .error (.invalidArgument shape.cowInvalid)
      else .ok (source, target)

def validatePublishTailCow (committed replacement : Page) : Result Unit :=
  match pool.tailCowSlots shape committed replacement with
  | .error status => .error status
  | .ok _ => .ok ()

/-- Publish a copy in place of its source. -/
def publishTailCow (committed replacement : Page) : AttentionPagePool Cells × Result Unit :=
  match pool.tailCowSlots shape committed replacement with
  | .error status => (pool, .error status)
  | .ok (source, target) =>
    ({ (pool.fillSlot shape source .free).fillSlot shape target
          .published with
        reservedCount := pool.reservedCount - 1
        freeCount := pool.freeCount + 1 }, .ok ())

def rollback (page : Page) : AttentionPagePool Cells × Result Unit :=
  match pool.validate shape page .reserved with
  | .error status => (pool, .error status)
  | .ok ordinal =>
    ({ pool.fillSlot shape ordinal .free with
        reservedCount := pool.reservedCount - 1
        freeCount := pool.freeCount + 1 }, .ok ())

def release (page : Page) : AttentionPagePool Cells × Result Unit :=
  match pool.validate shape page .published with
  | .error status => (pool, .error status)
  | .ok ordinal =>
    ({ pool.fillSlot shape ordinal .free with
        publishedCount := pool.publishedCount - 1
        freeCount := pool.freeCount + 1 }, .ok ())

def validateReleasePublishedSequence (sequence : ℕ) : Result Unit :=
  if sequence = 0 then .error (.invalidArgument "DeepSeek sequence identity is invalid")
  else if pool.slots.any fun slot =>
      slot.identity.sequence = sequence ∧ shape.any .reserved slot.cells then
    .error (.failedPrecondition shape.stillReserved)
  else .ok ()

end

/-- The slot is published for a sequence. -/
def publishedFor (sequence : ℕ) (slot : AttentionPageSlot Cells) : Bool :=
  slot.identity.sequence = sequence ∧ shape.lead slot.cells = .published

/-- Free every published page of a sequence. -/
def releasePublishedSequence (pool : AttentionPagePool Cells) (sequence : ℕ) :
    AttentionPagePool Cells × Result Unit :=
  match pool.validateReleasePublishedSequence shape sequence with
  | .error status => (pool, .error status)
  | .ok () =>
    let count := pool.slots.countP (publishedFor shape sequence)
    ({ pool with
        slots := pool.slots.map fun slot =>
            if publishedFor shape sequence slot then { slot with cells := shape.fill .free }
            else slot
        publishedCount := pool.publishedCount - count
        freeCount := pool.freeCount + count }, .ok ())

end AttentionPagePool

/-! ## The ratio-4 pool -/

structure DeepSeekRatio4Cells where
  main : DeepSeekAttentionPageState
  index : DeepSeekAttentionPageState
deriving DecidableEq, Repr

abbrev DeepSeekRatio4PagePool := AttentionPagePool DeepSeekRatio4Cells

namespace DeepSeekRatio4PagePool

/-- The handles of a pair agree with each other and with its generation. -/
def locate (pair : DeepSeekRatio4PagePair) : Option (ℕ × ℕ) :=
  if pair.main.poolKind ≠ DeepSeekStatePoolKind.ratio4MainBf16.code ∨ pair.index.poolKind ≠
        DeepSeekStatePoolKind.ratio4IndexBf16.code ∨
      pair.main.slot ≠ pair.index.slot ∨
      pair.main.generation ≠ pair.index.generation ∨
      pair.generation ≠ pair.main.generation then
    none
  else some (pair.main.slot, pair.generation)

def makePair (ordinal generation : ℕ) (identity : DeepSeekPageIdentity) :
    Result DeepSeekRatio4PagePair :=
  match DeepSeekBlockHandle.create .ratio4MainBf16 ordinal generation,
      DeepSeekBlockHandle.create .ratio4IndexBf16 ordinal generation with
  | .ok main, .ok index => .ok ⟨main, index, identity, generation⟩
  | .error status, _ => .error status
  | _, .error status => .error status

def shape : AttentionPageShape DeepSeekRatio4PagePair DeepSeekRatio4Cells where
  fill := fun state => ⟨state, state⟩
  lead := DeepSeekRatio4Cells.main
  every := fun state cells => cells.main = state ∧ cells.index = state
  any := fun state cells => cells.main = state ∨ cells.index = state
  identity := DeepSeekRatio4PagePair.identity
  locate := locate
  makePage := makePair
  countInvalid := "DeepSeek ratio-4 page pair count is invalid"
  identityInvalid := "DeepSeek ratio-4 page identity is invalid"
  epochRebuild := "DeepSeek attention page generation requires epoch rebuild"
  pageExists := "DeepSeek logical ratio-4 page already exists"
  handleFailed := some "DeepSeek ratio-4 handle construction failed"
  poolExhausted := "DeepSeek ratio-4 page pair pool is exhausted"
  handleInvalid := "DeepSeek ratio-4 page pair handle is invalid"
  pageStale := "DeepSeek ratio-4 page pair generation or state is stale"
  cowInvalid := "DeepSeek ratio-4 tail COW identity is invalid"
  stillReserved := "DeepSeek sequence still owns reserved ratio-4 pages"

end DeepSeekRatio4PagePool

/-! ## The ratio-128 pool -/

abbrev DeepSeekRatio128PagePool := AttentionPagePool DeepSeekAttentionPageState

namespace DeepSeekRatio128PagePool

def locate (page : DeepSeekRatio128Page) : Option (ℕ × ℕ) :=
  if page.handle.poolKind ≠ DeepSeekStatePoolKind.ratio128MainBf16.code then none
  else some (page.handle.slot, page.handle.generation)

def makePage (ordinal generation : ℕ) (identity : DeepSeekPageIdentity) :
    Result DeepSeekRatio128Page :=
  match DeepSeekBlockHandle.create .ratio128MainBf16 ordinal generation with
  | .ok handle => .ok ⟨handle, identity⟩
  | .error status => .error status

def shape : AttentionPageShape DeepSeekRatio128Page DeepSeekAttentionPageState where
  fill := id
  lead := id
  every := fun state cells => cells = state
  any := fun state cells => cells = state
  identity := DeepSeekRatio128Page.identity
  locate := locate
  makePage := makePage
  countInvalid := "DeepSeek ratio-128 page count is invalid"
  identityInvalid := "DeepSeek ratio-128 page identity is invalid"
  epochRebuild := "DeepSeek ratio-128 generation requires epoch rebuild"
  pageExists := "DeepSeek logical ratio-128 page already exists"
  handleFailed := none
  poolExhausted := "DeepSeek ratio-128 page pool is exhausted"
  handleInvalid := "DeepSeek ratio-128 page handle is invalid"
  pageStale := "DeepSeek ratio-128 page generation or state is stale"
  cowInvalid := "DeepSeek ratio-128 tail COW identity is invalid"
  stillReserved := "DeepSeek sequence still owns reserved ratio-128 pages"

end DeepSeekRatio128PagePool

end Pih
