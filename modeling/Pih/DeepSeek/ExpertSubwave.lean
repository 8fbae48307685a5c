import Pih.Core.Status
import Mathlib.Data.List.Pairwise
import Mathlib.Data.List.Range

/-!
# Expert sub-wave plans

A plan regroups the routes of a batch by expert.  The table is sorted by token
to validate it by position and then by expert; the offsets of the experts come
from one scan.  Weights are opaque, and the unstable sort is any function that
permutes its input into the order asked for.
-/

namespace Pih

open List

namespace ExpertSubwave

/-- A token that is sent to an expert. -/
structure Route (Weight : Type) where
  expertId : ℕ
  tokenIndex : ℕ
  routeOrdinal : ℕ
  weight : Weight
deriving DecidableEq

/-- The routes of a subwave, grouped by expert. -/
structure Plan (Weight : Type) where
  tokenCount : ℕ
  maximumTokenCount : ℕ
  routes : List (Route Weight)
  expertOffsets : List ℕ
  workspaceBytes : ℕ
deriving DecidableEq

variable {Weight : Type}

namespace Route

def Valid (accepts : Weight → Bool) (tokenCount : ℕ) (route : Route Weight) : Prop :=
  route.expertId < 256 ∧ route.tokenIndex < tokenCount ∧
    route.routeOrdinal < 6 ∧ accepts route.weight = true
deriving Decidable

def tokenLess (left right : Route Weight) : Bool :=
  if left.tokenIndex ≠ right.tokenIndex then left.tokenIndex < right.tokenIndex
  else left.routeOrdinal < right.routeOrdinal

def expertLess (left right : Route Weight) : Bool :=
  if left.expertId ≠ right.expertId then left.expertId < right.expertId
  else left.tokenLess right

end Route

/-- The route is in its place and its expert is new. -/
def checkRoute (routes : List (Route Weight)) (token ordinal : ℕ) : Result Unit :=
  match routes[token * 6 + ordinal]? with
  | none => .ok ()
  | some route =>
    if route.tokenIndex ≠ token ∨ route.routeOrdinal ≠ ordinal then
      .error (.invalidArgument "DeepSeek token route ordinal set is incomplete")
    else if ∃ previous < ordinal, routes[token * 6 + previous]?.map Route.expertId =
          some route.expertId then
      .error (.invalidArgument "DeepSeek token contains a duplicate expert")
    else .ok ()

/-- The loops over the tokens and their ordinals. -/
def checkRoutes (tokenCount : ℕ) (routes : List (Route Weight)) : Result Unit :=
  (range tokenCount).forM fun token => (range 6).forM fun ordinal => checkRoute routes token ordinal

/-- The scan from an expert on, with the routes behind the cursor. -/
def scanOffsets : ℕ → ℕ → ℕ → List (Route Weight) → List ℕ
  | 0, _, cursor, _ => [cursor]
  | experts + 1, expert, cursor, rest =>
    cursor :: scanOffsets experts (expert + 1)
      (cursor + (rest.takeWhile (·.expertId = expert)).length)
      (rest.dropWhile (·.expertId = expert))

abbrev RouteSort (Weight : Type) : Type :=
  (Route Weight → Route Weight → Bool) → List (Route Weight) → List (Route Weight)

/-- The plan of a table that passed the checks in the order of the tokens. -/
def Plan.filled (plan : Plan Weight) (sort : RouteSort Weight)
    (tokenCount : ℕ) (byToken : List (Route Weight)) : Plan Weight :=
  let byExpert := sort Route.expertLess byToken
  { plan with
    tokenCount
    routes := byExpert
    expertOffsets := scanOffsets 256 0 0 byExpert
    workspaceBytes := 16480 * tokenCount + 1280 }

def Plan.materialize (plan : Plan Weight) (sort : RouteSort Weight)
    (accepts : Weight → Bool) (tokenCount : ℕ)
    (routes : List (Route Weight)) : Plan Weight × Result Unit :=
  if tokenCount = 0 ∨ plan.maximumTokenCount < tokenCount ∨ routes.length ≠ tokenCount * 6 then
    (plan, .error (.invalidArgument
      "DeepSeek expert route table must contain exactly six routes per token"))
  else
    let cleared :=
      { plan with tokenCount := 0, workspaceBytes := 0, expertOffsets := replicate 257 0, routes }
    if ∃ route ∈ routes, ¬route.Valid accepts tokenCount then
      (cleared, .error (.invalidArgument "DeepSeek expert route is invalid"))
    else
      let byToken := sort Route.tokenLess routes
      match checkRoutes tokenCount byToken with
      | .error status => ({ cleared with routes := byToken }, .error status)
      | .ok () => (plan.filled sort tokenCount byToken, .ok ())

/-! ## Positions -/

/-- The place of a route in a complete table. -/
def Route.slot (route : Route Weight) : ℕ := route.tokenIndex * 6 + route.routeOrdinal

/-- Two routes of one token have different experts. -/
def Route.Apart (left right : Route Weight) : Prop :=
  left.tokenIndex = right.tokenIndex → left.expertId ≠ right.expertId

theorem forM_ok_iff {items : List Item} {action : Item → Result Unit} :
    items.forM action = .ok () ↔ ∀ item ∈ items, action item = .ok () := by
  induction items with
  | nil => simp [pure, Except.pure]
  | cons _ _ induction =>
    rw [List.forM, Result.bind_eq_ok, forall_mem_cons, ← induction]
    exact ⟨fun ⟨_, first, others⟩ => ⟨first, others⟩, fun all => ⟨(), all⟩⟩

section

variable {routes : List (Route Weight)} {tokenCount : ℕ}

theorem checkRoute_ok_iff {token ordinal : ℕ} {route : Route Weight}
    (found : routes[token * 6 + ordinal]? = some route) :
    checkRoute routes token ordinal = .ok () ↔
      route.tokenIndex = token ∧ route.routeOrdinal = ordinal ∧ ∀ previous < ordinal,
        routes[token * 6 + previous]?.map Route.expertId ≠ some route.expertId := by
  simp [checkRoute, found, Result.else_eq_ok, and_assoc]

/-- The checks pass if every route stands at its own place. -/
theorem checkRoutes_ok_iff (size : routes.length = tokenCount * 6)
    (ordinals : ∀ route ∈ routes, route.routeOrdinal < 6) :
    checkRoutes tokenCount routes = .ok () ↔ routes.map Route.slot = range (tokenCount * 6) ∧
      routes.Pairwise Route.Apart := by
  simp only [checkRoutes, forM_ok_iff, mem_range]
  constructor
  · intro checked
    have placed (position : ℕ) (inside : position < routes.length) := (@checkRoute_ok_iff _ _ _ _ _
        (by rw [Nat.div_add_mod', getElem?_eq_getElem inside])).mp
        (checked _ (by omega) _ (by omega))
    constructor
    · apply ext_getElem (by simpa using size)
      intro position inside _
      rw [length_map] at inside
      rcases placed position inside with ⟨token, ordinal, -⟩
      rw [getElem_map, getElem_range, Route.slot, token]
      omega
    · rw [pairwise_iff_getElem]
      intro first second inside inside' before together
      rcases placed first inside with ⟨token, -, -⟩
      rcases placed second inside' with ⟨_, -, apart⟩
      have different := apart (first % 6) (by omega)
      rw [show second / 6 * 6 + first % 6 = first by omega, getElem?_eq_getElem inside] at different
      simpa using different
  · rintro ⟨placed, apart⟩ token _ ordinal _
    have inside : token * 6 + ordinal < routes.length := by omega
    have slots (position : ℕ) (inside : position < routes.length) :
        routes[position].slot = position := by
      have same := congrArg (·[position]?) placed
      simpa [inside, size ▸ inside] using same
    have slot := slots _ inside
    have bound := ordinals _ (getElem_mem inside)
    unfold Route.slot at slot
    refine (checkRoute_ok_iff (getElem?_eq_getElem inside)).mpr ⟨by omega, by omega, ?_⟩
    intro previous earlier
    have inside' : token * 6 + previous < routes.length := by omega
    have slot' := slots _ inside'
    have bound' := ordinals _ (getElem_mem inside')
    unfold Route.slot at slot'
    have different := pairwise_iff_getElem.mp apart _ _ inside' inside (by omega) (by omega)
    rw [getElem?_eq_getElem inside']
    simpa using different

/-! ## Complete tables -/

/-- A token has one route for each ordinal, to different experts. -/
def Complete (routes : List (Route Weight)) (token : ℕ) : Prop :=
  (routes.filter (·.tokenIndex = token)).map Route.routeOrdinal ~ range 6 ∧
    ((routes.filter (·.tokenIndex = token)).map Route.expertId).Nodup

theorem slots_perm_iff (tokens : ∀ route ∈ routes, route.tokenIndex < tokenCount)
    (ordinals : ∀ route ∈ routes, route.routeOrdinal < 6) :
    routes.map Route.slot ~ range (tokenCount * 6) ↔ ∀ token < tokenCount,
      (routes.filter (·.tokenIndex = token)).map Route.routeOrdinal ~
        range 6 := by
  have counts (token ordinal : ℕ) (small : ordinal < 6) :
      count ordinal ((routes.filter (·.tokenIndex = token)).map Route.routeOrdinal) =
        count (token * 6 + ordinal) (routes.map Route.slot) := by
    simp only [count, countP_map, countP_filter]
    apply countP_congr
    intro route member
    have bound := ordinals route member
    simp [Route.slot]
    omega
  simp only [perm_iff_count, count_range]
  constructor
  · intro same token below ordinal
    by_cases small : ordinal < 6
    · rw [counts _ _ small, same]
      simp [small]
      omega
    · rw [if_neg small, count_eq_zero, mem_map]
      rintro ⟨route, member, rfl⟩
      exact small (ordinals route (mem_filter.mp member).1)
  · intro same slot
    have place : slot = slot / 6 * 6 + slot % 6 := (Nat.div_add_mod' ..).symm
    have small := Nat.mod_lt slot (by decide : 0 < 6)
    by_cases below : slot / 6 < tokenCount
    · rw [place, ← counts _ _ small, same _ below, if_pos small]
      rw [if_pos (by omega)]
    · rw [if_neg (by omega), count_eq_zero, mem_map]
      rintro ⟨route, member, rfl⟩
      have bound := tokens route member
      have bound' := ordinals route member
      unfold Route.slot at below
      omega

theorem apart_iff (tokens : ∀ route ∈ routes, route.tokenIndex < tokenCount) :
    routes.Pairwise Route.Apart ↔ ∀ token < tokenCount,
      ((routes.filter (·.tokenIndex = token)).map Route.expertId).Nodup := by
  simp only [Nodup, pairwise_map, pairwise_filter, decide_eq_true_eq]
  constructor
  · intro apart token below
    apply apart.imp
    rintro _ _ different rfl same
    exact different same.symm
  · intro apart
    simp only [pairwise_iff_getElem] at apart ⊢
    intro first second inside inside' before together
    exact apart _ (tokens _ (getElem_mem inside)) _ _ inside inside' before rfl together.symm

/-! ## The scan -/

variable {expert cursor : ℕ}

def Grouped (routes : List (Route Weight)) : Prop :=
  routes.Pairwise fun left right => left.expertId ≤ right.expertId

theorem lt_of_mem_dropWhile (grouped : Grouped routes)
    (lower : ∀ route ∈ routes, expert ≤ route.expertId) :
    ∀ route ∈ routes.dropWhile (·.expertId = expert), expert < route.expertId := by
  induction routes with
  | nil => simp
  | cons first _ induction =>
    rcases pairwise_cons.mp grouped with ⟨below, grouped⟩
    rcases forall_mem_cons.mp lower with ⟨_, lower⟩
    by_cases same : first.expertId = expert
    · rw [dropWhile_cons_of_pos (by simpa using same)]
      exact induction grouped lower
    · rw [dropWhile_cons_of_neg (by simpa using same)]
      refine forall_mem_cons.mpr ⟨by omega, fun route member => ?_⟩
      have later := below route member
      omega

/-- The offset of an expert is the number of routes to smaller experts. -/
theorem scanOffsets_eq (grouped : Grouped routes)
    (lower : ∀ route ∈ routes, expert ≤ route.expertId) :
    scanOffsets experts expert cursor routes = (range' expert (experts + 1)).map fun limit =>
      cursor + routes.countP (·.expertId < limit) := by
  have none : routes.countP (·.expertId < expert) = 0 := by simpa [countP_eq_zero] using lower
  induction experts generalizing routes expert cursor with
  | zero => simp [scanOffsets, none]
  | succ _ induction =>
    have after := lt_of_mem_dropWhile grouped lower
    rw [scanOffsets, range'_succ, map_cons, none,
      induction (grouped.sublist (dropWhile_sublist _)) after
        (by simpa [countP_eq_zero, Nat.succ_le_iff] using after)]
    congr 1
    apply map_congr_left
    intro limit inside
    have own : (routes.takeWhile (·.expertId = expert)).countP (·.expertId < limit) =
        (routes.takeWhile (·.expertId = expert)).length := by
      rw [countP_eq_length]
      intro route member
      have same := all_eq_true.mp all_takeWhile route member
      have above := (mem_range'_1.mp inside).1
      simp only [decide_eq_true_eq] at same ⊢
      omega
    rw [Nat.add_assoc, ← own, ← countP_append, takeWhile_append_dropWhile]

theorem position_lt_countP_iff (grouped : Grouped routes) {limit position : ℕ}
    {route : Route Weight} (found : routes[position]? = some route) :
    route.expertId < limit ↔ position < routes.countP (·.expertId < limit) := by
  induction routes generalizing position with
  | nil => simp at found
  | cons first rest induction =>
    rcases pairwise_cons.mp grouped with ⟨below, grouped⟩
    have none (large : ¬first.expertId < limit) : rest.countP (·.expertId < limit) = 0 := by
      rw [countP_eq_zero]
      intro other member
      have later := below other member
      simp only [decide_eq_true_eq]
      omega
    by_cases small : first.expertId < limit
    · cases position with
      | zero =>
        cases found
        simp [small]
      | succ =>
        rw [induction grouped found]
        simp [small]
    · cases position with
      | zero =>
        cases found
        simp [small, none]
      | succ =>
        rw [induction grouped found]
        simp [small, none]

end

/-! ## Materialising a plan -/

theorem Route.tokenLess_iff {left right : Route Weight} :
    left.tokenLess right = true ↔ left.tokenIndex < right.tokenIndex ∨
      left.tokenIndex = right.tokenIndex ∧ left.routeOrdinal < right.routeOrdinal := by
  unfold tokenLess
  split <;> rw [decide_eq_true_eq] <;> omega

theorem Route.expertLess_iff {left right : Route Weight} :
    left.expertLess right = true ↔ left.expertId < right.expertId ∨
      left.expertId = right.expertId ∧ left.tokenLess right = true := by
  unfold expertLess
  split
  · rw [decide_eq_true_eq]
    omega
  · simp_all

/-- What the plan relies on of the sort. -/
structure Sorts (sort : RouteSort Weight) : Prop where
  perm : ∀ less routes, sort less routes ~ routes
  byToken : ∀ routes, (sort Route.tokenLess routes).Pairwise fun left right => ¬right.tokenLess left
  byExpert : ∀ routes, (sort Route.expertLess routes).Pairwise
    fun left right => ¬right.expertLess left

/-- The tables a plan takes. -/
structure Accepts (plan : Plan Weight) (accepts : Weight → Bool)
    (tokenCount : ℕ) (routes : List (Route Weight)) : Prop where
  positive : tokenCount ≠ 0
  fits : tokenCount ≤ plan.maximumTokenCount
  valid : ∀ route ∈ routes, route.Valid accepts tokenCount
  complete : ∀ token < tokenCount, Complete routes token

/-- The routes are those of the input, in order and cut by expert. -/
structure Regroups (routes : List (Route Weight)) (plan : Plan Weight) : Prop where
  perm : plan.routes ~ routes
  ordered : plan.routes.Pairwise fun left right => left.expertLess right
  offsets : ∀ expert < 256, ∃ first last, plan.expertOffsets[expert]? = some first ∧
    plan.expertOffsets[expert + 1]? = some last ∧ first ≤ last ∧ last ≤ plan.routes.length ∧
    ∀ position route, plan.routes[position]? = some route →
      (route.expertId = expert ↔ first ≤ position ∧ position < last)

section

variable {sort : RouteSort Weight} {plan : Plan Weight}
  {accepts : Weight → Bool} {tokenCount : ℕ}
  {routes other : List (Route Weight)}

theorem slots_perm (accepted : Accepts plan accepts tokenCount routes) :
    routes.map Route.slot ~ range (tokenCount * 6) :=
  (slots_perm_iff (fun route member => (accepted.valid route member).2.1)
    fun route member => (accepted.valid route member).2.2.1).mpr
    fun token below => (accepted.complete token below).1

theorem checkRoutes_byToken (sorts : Sorts sort)
    (valid : ∀ route ∈ routes, route.Valid accepts tokenCount)
    (size : routes.length = tokenCount * 6) :
    checkRoutes tokenCount (sort Route.tokenLess routes) = .ok () ↔
      ∀ token < tokenCount, Complete routes token := by
  have perm := sorts.perm Route.tokenLess routes
  have tokens := fun route member => (valid route member).2.1
  have ordinals := fun route member => (valid route member).2.2.1
  have slots : (sort Route.tokenLess routes).map Route.slot = range (tokenCount * 6) ↔
      routes.map Route.slot ~ range (tokenCount * 6) := by
    constructor
    · intro same
      exact (perm.map _).symm.trans (.of_eq same)
    · intro complete
      refine Perm.eq_of_pairwise (fun _ _ _ _ => Nat.le_antisymm) ?_ 
        pairwise_le_range ((perm.map _).trans complete)
      rw [pairwise_map]
      refine (sorts.byToken routes).imp_of_mem ?_
      intro left right member member' ordered
      have bound := ordinals left (perm.mem_iff.mp member)
      rw [Route.tokenLess_iff] at ordered
      unfold Route.slot
      omega
  have symmetric : ∀ {left right : Route Weight}, left.Apart right → right.Apart left :=
    fun apart together same => apart together.symm same.symm
  rw [checkRoutes_ok_iff (perm.length_eq.trans size)
    (fun route member => ordinals route (perm.mem_iff.mp member)), slots,
    perm.pairwise_iff symmetric, slots_perm_iff tokens ordinals, apart_iff tokens, ← forall₂_and]
  rfl

theorem Accepts.perm (accepted : Accepts plan accepts tokenCount routes)
    (same : other ~ routes) : Accepts plan accepts tokenCount other where
  positive := accepted.positive
  fits := accepted.fits
  valid route member := accepted.valid route (same.mem_iff.mp member)
  complete token below := by
    have own := same.filter (·.tokenIndex = token)
    rcases accepted.complete token below with ⟨ordinals, experts⟩
    exact ⟨(own.map _).trans ordinals, (own.map _).nodup_iff.mpr experts⟩

theorem materialize_of_accepts (sorts : Sorts sort)
    (accepted : Accepts plan accepts tokenCount routes) :
    plan.materialize sort accepts tokenCount routes =
      (plan.filled sort tokenCount (sort Route.tokenLess routes), .ok ()) := by
  have size : routes.length = tokenCount * 6 := by simpa using (slots_perm accepted).length_eq
  have checked := (checkRoutes_byToken sorts accepted.valid size).mpr accepted.complete
  have valid := accepted.valid
  rw [Plan.materialize, if_neg, if_neg (by simpa using valid)]
  · simp only [checked]
  · simp [accepted.positive, accepted.fits, size]

theorem materialize_cases (sorts : Sorts sort) (plan : Plan Weight)
    (accepts : Weight → Bool) (tokenCount : ℕ) (routes : List (Route Weight)) :
    Accepts plan accepts tokenCount routes ∨
      ∃ next status, plan.materialize sort accepts tokenCount routes = (next, .error status) ∧
        (next = plan ∨ next.tokenCount = 0 ∧ ∀ offset ∈ next.expertOffsets, offset = 0) := by
  unfold Plan.materialize
  split
  · exact .inr ⟨_, _, rfl, .inl rfl⟩
  rename_i shape
  simp only [not_or, not_lt, not_not] at shape
  split
  · exact .inr ⟨_, _, rfl, .inr ⟨rfl, fun _ => eq_of_mem_replicate⟩⟩
  rename_i valid
  simp only [not_exists, not_and, not_not] at valid
  cases checked : checkRoutes tokenCount (sort Route.tokenLess routes) with
  | error =>
    simp only [checked]
    exact .inr ⟨_, _, rfl, .inr ⟨rfl, fun _ => eq_of_mem_replicate⟩⟩
  | ok =>
    exact .inl ⟨shape.1, shape.2.1, valid, (checkRoutes_byToken sorts valid shape.2.2).mp checked⟩

/-- The routes by expert are strictly ordered, so their order is unique. -/
theorem filled_ordered (sorts : Sorts sort) (accepted : Accepts plan accepts tokenCount routes) :
    let next := plan.filled sort tokenCount (sort Route.tokenLess routes)
    next.routes ~ routes ∧ next.routes.Pairwise fun left right => left.expertLess right := by
  have perm := (sorts.perm Route.expertLess _).trans (sorts.perm Route.tokenLess routes)
  have distinct := ((perm.map _).trans (slots_perm accepted)).nodup_iff.mpr nodup_range
  rw [Nodup, pairwise_map] at distinct
  refine ⟨perm, ((sorts.byExpert _).and distinct).imp ?_⟩
  rintro _ _ ⟨_, _⟩
  simp only [Route.expertLess_iff, Route.tokenLess_iff, Route.slot] at *
  omega

theorem offsets_of_ordered (ordered : routes.Pairwise fun left right => left.expertLess right)
    (expert : ℕ) (below : expert < 256) :
    ∃ first last, (scanOffsets 256 0 0 routes)[expert]? = some first ∧
      (scanOffsets 256 0 0 routes)[expert + 1]? = some last ∧ first ≤ last ∧ last ≤ routes.length ∧
      ∀ position route, routes[position]? = some route →
        (route.expertId = expert ↔ first ≤ position ∧ position < last) := by
  have grouped : Grouped routes := by
    refine ordered.imp ?_
    intro left right less
    rw [Route.expertLess_iff] at less
    omega
  rw [scanOffsets_eq grouped (by simp)]
  refine ⟨routes.countP (·.expertId < expert), routes.countP (·.expertId < expert + 1), ?_, ?_,
    countP_mono_left ?_, countP_le_length, ?_⟩
  · simp [below.trans (Nat.lt_succ_self 256)]
  · simp [Nat.succ_lt_succ below]
  · intro route _
    simp only [decide_eq_true_eq]
    omega
  intro position route found
  have low := @position_lt_countP_iff _ _ grouped expert _ _ found
  have high := @position_lt_countP_iff _ _ grouped (expert + 1) _ _ found
  omega

/--
A table is taken if it has one valid route for each token and ordinal, with
different experts in a token.  The plan then holds its routes by expert,
whatever their order was; a refused table leaves the plan as it is or empty.
-/
theorem materialize_regroups (sorts : Sorts sort) (plan : Plan Weight)
    (accepts : Weight → Bool) (tokenCount : ℕ) (routes : List (Route Weight)) :
    let done := plan.materialize sort accepts tokenCount routes
    (done.2 = .ok () ↔ Accepts plan accepts tokenCount routes) ∧
      (done.2 = .ok () → Regroups routes done.1 ∧ ∀ other, other ~ routes →
        plan.materialize sort accepts tokenCount other = done) ∧
      (done.2 ≠ .ok () → done.1 = plan ∨ done.1.tokenCount = 0 ∧
        ∀ offset ∈ done.1.expertOffsets, offset = 0) := by
  intro done
  rcases materialize_cases sorts plan accepts tokenCount routes with
    accepted | ⟨_, _, refused, kept⟩
  · have filled : done = _ := materialize_of_accepts sorts accepted
    rw [filled]
    rcases filled_ordered sorts accepted with ⟨perm, ordered⟩
    refine ⟨iff_of_true rfl accepted, fun _ => ⟨⟨perm, ordered,
      offsets_of_ordered ordered⟩, fun other same => ?_⟩, fun failed => (failed rfl).elim⟩
    rcases filled_ordered sorts (accepted.perm same) with ⟨perm', ordered'⟩
    have unique := Perm.eq_of_pairwise (fun left right _ _ less greater => by
      rw [Route.expertLess_iff, Route.tokenLess_iff] at less greater
      omega) ordered' ordered ((perm'.trans same).trans perm.symm)
    rw [materialize_of_accepts sorts (accepted.perm same)]
    simp only [Plan.filled] at unique ⊢
    rw [unique]
  · have failed : done = _ := refused
    rw [failed]
    refine ⟨iff_of_false nofun fun accepted => ?_, nofun, fun _ => kept⟩
    have impossible := refused.symm.trans (materialize_of_accepts sorts accepted)
    cases congrArg Prod.snd impossible

end

def mergeSorted : RouteSort Weight := fun less routes =>
  routes.mergeSort fun left right => !less right left

theorem mergeSorted_sorts : Sorts (@mergeSorted Weight) where
  perm _ routes := mergeSort_perm routes _
  byToken routes := by
    refine (pairwise_mergeSort ?_ ?_ routes).imp (by simp) <;>
      simp only [Bool.not_eq_true', ← Bool.not_eq_true, Bool.or_eq_true,
        Route.tokenLess_iff] <;> omega
  byExpert routes := by
    refine (pairwise_mergeSort ?_ ?_ routes).imp (by simp) <;>
      simp only [Bool.not_eq_true', ← Bool.not_eq_true, Bool.or_eq_true,
        Route.expertLess_iff, Route.tokenLess_iff] <;> omega

def onePlan : Plan Unit := ⟨0, 1, [], replicate 257 0, 0⟩

def oneToken : List (Route Unit) :=
  [⟨9, 0, 1, ()⟩, ⟨7, 0, 0, ()⟩, ⟨8, 0, 5, ()⟩, ⟨3, 0, 2, ()⟩, ⟨1, 0, 4, ()⟩, ⟨5, 0, 3, ()⟩]

theorem materialize_regroups_one_token :
    let done := onePlan.materialize mergeSorted (fun _ => true) 1 oneToken
    done.2 = .ok () ∧ Regroups oneToken done.1 := by
  have accepted : Accepts onePlan (fun _ => true) 1 oneToken :=
    ⟨by decide, by decide, by decide, by unfold Complete; decide⟩
  have main := materialize_regroups mergeSorted_sorts onePlan (fun _ => true) 1 oneToken
  have taken := main.1.mpr accepted
  exact ⟨taken, (main.2.1 taken).1⟩

/-- A table without tokens meets every other condition and is refused. -/
theorem empty_table_refused : 0 ≤ onePlan.maximumTokenCount ∧
    (∀ route ∈ ([] : List (Route Unit)), route.Valid (fun _ => true) 0) ∧
    (∀ token < 0, Complete ([] : List (Route Unit)) token) ∧
    (onePlan.materialize mergeSorted (fun _ => true) 0 []).2 ≠ .ok () :=
  ⟨Nat.zero_le _, by simp, by simp, by decide⟩

end ExpertSubwave

end Pih
