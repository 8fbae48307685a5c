import Pih.DeepSeek.PageLedger
import Pih.Library.Runs

/-!
# Looking up a published page

The lookup takes the first slot that carries the key and is not free.  While a
page of the key is reserved that slot may be the reserved one, so the answer
depends on where the allocator placed it.
-/

namespace Pih

open List

namespace AttentionPagePool

variable {Page Cells : Type} (shape : AttentionPageShape Page Cells)

/-- In what the lookups of the two pools differ. -/
structure LookupMessages where
  identityInvalid : String
  notStable : String
  handleFailed : String

/-- Look up the page of a key, which must be stable. -/
def findPublished (messages : LookupMessages) (pool : AttentionPagePool Cells)
    (identity : DeepSeekPageIdentity) : Result (Option Page) :=
  if identity.sequence = 0 ∨ identity.layerId ≥ 43 then
    .error (.invalidArgument messages.identityInvalid)
  else
    match pool.slots.zipIdx.find? fun entry =>
        entry.1.identity = identity ∧ shape.lead entry.1.cells ≠ .free with
    | none => .ok none
    | some (slot, ordinal) =>
      if ¬ shape.every .published slot.cells then .error (.failedPrecondition messages.notStable)
      else
        match shape.makePage ordinal slot.generation identity with
        | .error _ => .error (.internal messages.handleFailed)
        | .ok page => .ok (some page)

/-! ## Calls on one pool -/

/-- A call on one pool. -/
inductive Operation (Page : Type) where
  | reserve (identity : DeepSeekPageIdentity)
  | reserveTailCow (committed : Page)
  | publish (page : Page)
  | publishTailCow (committed replacement : Page)
  | rollback (page : Page)
  | release (page : Page)
  | releasePublishedSequence (sequence : ℕ)

def execute (pool : AttentionPagePool Cells) :
    Operation Page → AttentionPagePool Cells × Result (Option Page)
  | .reserve identity => (pool.reserve shape identity).map id (.map some)
  | .reserveTailCow committed => (pool.reserveTailCow shape committed).map id (.map some)
  | .publish page => (pool.publish shape page).map id (.map fun _ => none)
  | .publishTailCow committed replacement =>
    (pool.publishTailCow shape committed replacement).map id (.map fun _ => none)
  | .rollback page => (pool.rollback shape page).map id (.map fun _ => none)
  | .release page => (pool.release shape page).map id (.map fun _ => none)
  | .releasePublishedSequence sequence =>
    (pool.releasePublishedSequence shape sequence).map id (.map fun _ => none)

/-- The pool is reached by calls, with any arguments, after it was created. -/
def Reaches (pool : AttentionPagePool Cells) : Prop :=
  ∃ pages start history, create shape pages = .ok start ∧
    Run (execute shape) (fun _ _ _ => True) start history pool

/-! ## What a lookup should do -/

/-- The logical page that a successful lookup returns, if it finds one. -/
def foundPage (messages : LookupMessages) (pool : AttentionPagePool Cells)
    (identity : DeepSeekPageIdentity) : Option (Option DeepSeekPageIdentity) :=
  (pool.findPublished shape messages identity).toOption.map (Option.map shape.identity)

/-- The number of published slots of a key. -/
def publishedCopies (slots : List (AttentionPageSlot Cells))
    (identity : DeepSeekPageIdentity) : ℕ :=
  slots.countP fun slot => slot.identity = identity ∧ shape.every .published slot.cells

/-- The lookup returns a published slot of the key or finds that none is. -/
def Finds (messages : LookupMessages) (pool : AttentionPagePool Cells)
    (identity : DeepSeekPageIdentity) : Prop :=
  (∃ page place, pool.findPublished shape messages identity = .ok (some page) ∧
      Holds shape pool.slots page place .published ∧
      shape.identity page = identity) ∨
    pool.findPublished shape messages identity = .ok none ∧
      publishedCopies shape pool.slots identity = 0

/--
The lookup finds the only published slot of the key, and no permutation of
the slots changes whether it succeeds or which logical page it returns.
-/
structure LooksUp (messages : LookupMessages) (pool : AttentionPagePool Cells)
    (identity : DeepSeekPageIdentity) : Prop where
  unique : publishedCopies shape pool.slots identity ≤ 1
  finds : Finds shape messages pool identity
  permuted : ∀ slots, slots.Perm pool.slots →
      foundPage shape messages { pool with slots } identity = pool.foundPage shape messages identity

/--
The key is legal, has no reserved page and at most one published page.
`single` is `LooksUp.unique` again: the other fields are what the lookup needs
beside it.
-/
structure Settled (pool : AttentionPagePool Cells) (identity : DeepSeekPageIdentity) : Prop where
  sequence : identity.sequence ≠ 0
  layer : identity.layerId < 43
  unreserved : ∀ slot ∈ pool.slots, slot.identity = identity → slot.cells ≠ shape.fill .reserved
  single : publishedCopies shape pool.slots identity ≤ 1

/-! ## Slots whose pages can be named -/

/-- The slot has a page for the state that it is in. -/
structure Nameable (slot : AttentionPageSlot Cells) : Prop where
  small : slot.generation ≤ u32Max
  uniform : ∃ state, slot.cells = shape.fill state ∧ (state ≠ .free → slot.generation ≠ 0)

/-- The slots can be named by handles. -/
structure Usable (slots : List (AttentionPageSlot Cells)) : Prop where
  bounded : slots.length ≤ DeepSeekBlockHandle.kSlotMask + 1
  nameable : ∀ slot ∈ slots, Nameable shape slot

variable {shape} {pool : AttentionPagePool Cells}
  {identity : DeepSeekPageIdentity}

theorem Usable.perm {slots : List (AttentionPageSlot Cells)}
    (usable : Usable shape pool.slots) (permuted : slots.Perm pool.slots) :
    Usable shape slots where
  bounded := permuted.length_eq ▸ usable.bounded
  nameable := fun slot member => usable.nameable slot (permuted.mem_iff.mp member)

theorem usable_create (made : create shape pages = .ok pool) : Usable shape pool.slots := by
  unfold create at made
  split at made
  · cases made
  · next =>
    cases made
    constructor
    · rw [length_replicate]
      omega
    · intro slot member
      rw [eq_of_mem_replicate member]
      exact ⟨Nat.zero_le _, .free, rfl, fun used => (used rfl).elim⟩

section

variable (lawful : shape.Lawful)

include lawful

section

variable (usable : Usable shape pool.slots)

include usable

/-- A page in use has a number, so its slot may enter any state. -/
theorem Usable.fillSlot (held : Holds shape pool.slots page ordinal state) (used : state ≠ .free) :
    Usable shape (pool.fillSlot shape ordinal filled).slots := by
  rcases held with ⟨own, -, found, -, cells⟩
  constructor
  · simpa [AttentionPagePool.fillSlot] using usable.bounded
  intro slot member
  rcases mem_iff_getElem?.mp member with ⟨_, there⟩
  rw [getElem?_fillSlot] at there
  split at there
  · next same =>
    subst same
    rw [found] at there
    cases there
    rcases usable.nameable own (mem_of_getElem? found) with ⟨small, _, own, numbered⟩
    cases lawful.fill_injective (own.symm.trans cells)
    exact ⟨small, filled, rfl, fun _ => numbered used⟩
  · exact usable.nameable slot (mem_of_getElem? there)

theorem Usable.reserveFree (identity : DeepSeekPageIdentity) :
    Usable shape (pool.reserveFree shape identity).1.slots := by
  rcases reserveFree_cases lawful usable.bounded
      (fun slot member => (usable.nameable slot member).small) identity with
    ⟨_, _, done, same⟩ | ⟨_, _, _, _, done, reserves⟩
  · rw [done]
    exact same.slots ▸ usable
  · rw [done, reserves.slots]
    constructor
    · simpa using usable.bounded
    intro slot member
    rcases mem_or_eq_of_mem_set member with before | rfl
    · exact usable.nameable slot before
    · exact ⟨reserves.small, .reserved, rfl, fun _ => Nat.succ_ne_zero _⟩

theorem Usable.publishTailCow (committed replacement : Page) :
    Usable shape (pool.publishTailCow shape committed replacement).1.slots := by
  unfold AttentionPagePool.publishTailCow
  rcases PageMutation.tailCowSlots_cases lawful pool committed replacement with
    ⟨-, _, failed⟩ | ⟨_, _, old, held, -, accepted⟩
  · rw [failed]
    exact usable
  · rw [accepted]
    have apart := old.apart lawful held nofun
    exact Usable.fillSlot lawful (usable.fillSlot lawful old nofun)
      (held.congr (getElem?_fillSlot_ne _ _ apart)) nofun

omit lawful in
theorem Usable.releasePublishedSequence (sequence : ℕ) :
    Usable shape (pool.releasePublishedSequence shape sequence).1.slots := by
  unfold AttentionPagePool.releasePublishedSequence
  split
  · exact usable
  constructor
  · simpa using usable.bounded
  intro slot member
  rcases mem_map.mp member with ⟨before, among, rfl⟩
  have nameable := usable.nameable before among
  split
  · exact ⟨nameable.small, .free, rfl, fun used => (used rfl).elim⟩
  · exact nameable

/-- A page that an operation accepts is in use. -/
theorem Usable.validated (accepted : pool.validate shape page expected = .ok ordinal)
    (used : expected ≠ .free) :
    Usable shape (pool.fillSlot shape ordinal filled).slots :=
  usable.fillSlot lawful ((validate_ok_iff lawful).mp accepted) used

end

theorem Usable.execute (usable : Usable shape pool.slots) (operation : Operation Page) :
    Usable shape (execute shape pool operation).1.slots := by
  cases operation with
  | reserve identity =>
    simp only [AttentionPagePool.execute, reserve, Prod.map_fst, id_eq]
    split_ifs
    · exact usable
    · exact usable
    · exact usable
    · exact usable.reserveFree lawful identity
  | reserveTailCow =>
    simp only [AttentionPagePool.execute, reserveTailCow, Prod.map_fst, id_eq]
    split
    · exact usable
    split
    · exact usable
    · exact usable.reserveFree lawful _
  | publish =>
    simp only [AttentionPagePool.execute, publish, Prod.map_fst, id_eq]
    split
    · exact usable
    · next accepted => exact usable.validated lawful accepted nofun
  | publishTailCow committed replacement => exact usable.publishTailCow lawful committed replacement
  | rollback =>
    simp only [AttentionPagePool.execute, rollback, Prod.map_fst, id_eq]
    split
    · exact usable
    · next accepted => exact usable.validated lawful accepted nofun
  | release =>
    simp only [AttentionPagePool.execute, release, Prod.map_fst, id_eq]
    split
    · exact usable
    · next accepted => exact usable.validated lawful accepted nofun
  | releasePublishedSequence sequence => exact usable.releasePublishedSequence sequence

theorem Reaches.usable (reaches : Reaches shape pool) : Usable shape pool.slots := by
  rcases reaches with ⟨_, _, history, made, run⟩
  refine Run.invariant (fun _ pool => Usable shape pool.slots) (usable_create made) ?_ run
  intro history pool operation _ usable _
  exact usable.execute lawful operation

/-! ## When a lookup does what it should -/

theorem publishedCopies_ne_zero (member : slot ∈ pool.slots) (same : slot.identity = identity)
    (cells : slot.cells = shape.fill .published) :
    publishedCopies shape pool.slots identity ≠ 0 := by
  apply Nat.ne_of_gt
  apply countP_pos_iff.mpr
  exact ⟨slot, member, by simp [same, cells, every_fill lawful]⟩

/-- What the callers see of a lookup that finds what it should. -/
theorem Finds.foundPage (finds : Finds shape messages pool identity) :
    pool.foundPage shape messages identity =
      some (if publishedCopies shape pool.slots identity = 0 then none
        else some identity) := by
  unfold AttentionPagePool.foundPage
  rcases finds with ⟨_, _, found, held, named⟩ | ⟨missing, copies⟩
  · rcases held with ⟨_, -, there, same, cells⟩
    have copies := publishedCopies_ne_zero lawful (mem_of_getElem? there) (same.trans named) cells
    rw [found, if_neg copies, ← named]
    rfl
  · rw [missing, if_pos copies]
    rfl

theorem Settled.finds (usable : Usable shape pool.slots) (settled : Settled shape pool identity) :
    Finds shape messages pool identity := by
  have legal : ¬ (identity.sequence = 0 ∨ identity.layerId ≥ 43) := by
    have := settled.sequence
    have := settled.layer
    omega
  unfold Finds findPublished
  rw [if_neg legal]
  cases searched : pool.slots.zipIdx.find? fun entry =>
      entry.1.identity = identity ∧ shape.lead entry.1.cells ≠ .free with
  | none =>
    refine .inr ⟨rfl, countP_eq_zero.mpr fun slot member counted => ?_⟩
    rcases mem_iff_getElem?.mp member with ⟨place, found⟩
    have skipped := find?_eq_none.mp searched (slot, place) (mem_zipIdx_iff_getElem?.mpr found)
    simp only [lawful.every_iff, decide_eq_true_eq] at counted
    simp [counted, lawful.lead_fill] at skipped
  | some entry =>
    rcases entry with ⟨slot, place⟩
    have found := mem_zipIdx_iff_getElem?.mp (mem_of_find?_eq_some searched)
    have member := mem_of_getElem? found
    have taken := find?_some searched
    simp only [decide_eq_true_eq] at taken
    rcases taken with ⟨same, used⟩
    rcases usable.nameable slot member with ⟨small, state, cells, numbered⟩
    rw [cells, lawful.lead_fill] at used
    have published : state = .published := by
      cases state with
      | free => exact (used rfl).elim
      | reserved => exact (settled.unreserved slot member same cells).elim
      | published => rfl
    subst published
    have inside := (List.getElem_of_getElem? found).1
    have reach := Nat.le_of_lt_succ (Nat.lt_of_lt_of_le inside usable.bounded)
    rcases lawful.makes identity reach (numbered used) small with ⟨page, made, located, named⟩
    dsimp only
    rw [if_neg (not_not.mpr ((lawful.every_iff _ _).mpr cells)), made]
    exact .inl ⟨page, place, rfl, ⟨slot, located, found, same.trans named.symm, cells⟩, named⟩

theorem LooksUp.settled (looksUp : LooksUp shape messages pool identity) :
    Settled shape pool identity := by
  have known := looksUp.finds.foundPage lawful
  have legal : ¬ (identity.sequence = 0 ∨ identity.layerId ≥ 43) := by
    intro illegal
    rw [foundPage, findPublished, if_pos illegal] at known
    cases known
  refine ⟨fun zero => legal (.inl zero), ?_, ?_, looksUp.unique⟩
  · exact Nat.lt_of_not_le fun large => legal (.inr large)
  · intro slot member same reserved
    -- the permutation that puts the reserved slot first
    rcases append_of_mem member with ⟨before, behind, split⟩
    have first := looksUp.permuted (slot :: (before ++ behind)) (split ▸ perm_middle.symm)
    rw [known] at first
    simp [foundPage, findPublished, legal, same, reserved, lawful.lead_fill,
      every_fill lawful, Except.toOption] at first

theorem looksUp_iff_settled (reaches : Reaches shape pool) :
    LooksUp shape messages pool identity ↔ Settled shape pool identity := by
  refine ⟨fun looksUp => looksUp.settled lawful, fun settled => ?_⟩
  have usable := reaches.usable lawful
  have finds : Finds shape messages pool identity := settled.finds lawful usable
  refine ⟨settled.single, finds, fun slots permuted => ?_⟩
  have copies : publishedCopies shape slots identity = publishedCopies shape pool.slots identity :=
    permuted.countP_eq _
  have again : Settled shape { pool with slots } identity := ⟨settled.sequence, settled.layer,
      fun slot member => settled.unreserved slot (permuted.mem_iff.mp member),
      copies ▸ settled.single⟩
  rw [finds.foundPage lawful, ← copies]
  exact (again.finds lawful (usable.perm permuted)).foundPage lawful

end

/-! ## A copy in a lower slot -/

variable (shape)

/-- A call with the first page that a slot hands out for a key. -/
def onPage (place : ℕ) (identity : DeepSeekPageIdentity)
    (call : Page → Operation Page) : Operation Page :=
  match shape.makePage place 1 identity with
  | .error _ => .releasePublishedSequence 0
  | .ok page => call page

/-- The second of two pages is published and then copied into the first slot. -/
def copyBelow : List (AttentionPagePool Cells → Operation Page) :=
  [fun _ => .reserve ⟨1, 0, 0⟩, fun _ => .reserve ⟨2, 0, 0⟩,
    fun _ => onPage shape 1 ⟨2, 0, 0⟩ .publish, fun _ => onPage shape 0 ⟨1, 0, 0⟩ .rollback,
    fun _ => onPage shape 1 ⟨2, 0, 0⟩ .reserveTailCow]

/-- The pool after the first calls of the copy. -/
def afterCalls (calls : ℕ) : AttentionPagePool Cells := (runScript (execute shape) []
    ⟨replicate 2 ⟨0, {}, shape.fill .free⟩, 2, 0, 0, false⟩
    ((copyBelow shape).take calls)).2

theorem reaches_afterCalls (calls : ℕ) : Reaches shape (afterCalls shape calls) :=
  ⟨2, _, _, rfl, Run.runScript .start _ (ScriptAllowed.unrestricted _)⟩

end AttentionPagePool

def DeepSeekRatio4PagePool.lookupMessages : AttentionPagePool.LookupMessages where
  identityInvalid := "DeepSeek ratio-4 published page identity is invalid"
  notStable := "DeepSeek ratio-4 logical page is not stably published"
  handleFailed := "DeepSeek ratio-4 published handle reconstruction failed"

def DeepSeekRatio128PagePool.lookupMessages : AttentionPagePool.LookupMessages where
  identityInvalid := "DeepSeek ratio-128 published page identity is invalid"
  notStable := "DeepSeek ratio-128 logical page is not stably published"
  handleFailed := "DeepSeek ratio-128 published handle reconstruction failed"

open AttentionPagePool in
/--
In every state that calls reach, a lookup finds the one published slot of its
key wherever the slots are, exactly if the key is settled.
-/
theorem published_lookup_iff_settled {ratio4Pool : DeepSeekRatio4PagePool}
    {ratio128Pool : DeepSeekRatio128PagePool}
    (ratio4 : Reaches DeepSeekRatio4PagePool.shape ratio4Pool)
    (ratio128 : Reaches DeepSeekRatio128PagePool.shape ratio128Pool)
    (identity : DeepSeekPageIdentity) :
    (LooksUp DeepSeekRatio4PagePool.shape DeepSeekRatio4PagePool.lookupMessages
        ratio4Pool identity ↔
      Settled DeepSeekRatio4PagePool.shape ratio4Pool identity) ∧
    (LooksUp DeepSeekRatio128PagePool.shape
        DeepSeekRatio128PagePool.lookupMessages ratio128Pool identity ↔
      Settled DeepSeekRatio128PagePool.shape ratio128Pool identity) :=
  ⟨looksUp_iff_settled DeepSeekRatio4PagePool.shape_lawful ratio4,
    looksUp_iff_settled DeepSeekRatio128PagePool.shape_lawful ratio128⟩

open AttentionPagePool in
/-- The second page is found before it is copied. -/
theorem published_lookup_iff_settled_alone :
    LooksUp DeepSeekRatio4PagePool.shape DeepSeekRatio4PagePool.lookupMessages
      (afterCalls DeepSeekRatio4PagePool.shape 4) ⟨2, 0, 0⟩ := by
  refine (published_lookup_iff_settled (reaches_afterCalls _ 4)
    (reaches_afterCalls _ 0) ⟨2, 0, 0⟩).1.mpr ⟨nofun, ?_, ?_, ?_⟩
  all_goals decide +kernel

open AttentionPagePool in
/-- The page is still published in slot 1, but the lookup stops at slot 0. -/
theorem published_lookup_shadowed :
    let pool := afterCalls DeepSeekRatio4PagePool.shape 5
    Reaches DeepSeekRatio4PagePool.shape pool ∧
      (pool.slots.map fun slot => (slot.identity, slot.cells.main)) =
        [(⟨2, 0, 0⟩, .reserved), (⟨2, 0, 0⟩, .published)] ∧
      pool.findPublished DeepSeekRatio4PagePool.shape
          DeepSeekRatio4PagePool.lookupMessages ⟨2, 0, 0⟩ =
        .error (.failedPrecondition "DeepSeek ratio-4 logical page is not stably published") := by
  refine ⟨reaches_afterCalls _ 5, ?_⟩
  decide +kernel

end Pih
