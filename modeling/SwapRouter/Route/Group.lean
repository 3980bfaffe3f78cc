import SwapRouter.Capabilities
import SwapRouter.Route.Outgoing

/-!
# Groups of swaps

Consecutive swaps of a protocol that settles its balances at the end of a call are merged
into one call of the executor, so that tokens move between its pools without passing
through the router.  A swap joins the one before it if it goes on with that swap's
output, carries no fraction and takes a token that is no fork.
-/

namespace SwapRouter

/-- Consecutive swaps that make up one call of an executor. -/
structure SwapGroup where
  first : Swap
  later : List Swap := []
  deriving DecidableEq, Inhabited

namespace SwapGroup

/-- All swaps of a group. -/
def swaps (g : SwapGroup) : List Swap := g.first :: g.later

/-- The protocol of a group. -/
def protocol (g : SwapGroup) : String := g.first.protocol

/-- The token that a group takes. -/
def tokenIn (g : SwapGroup) : Address := g.first.tokenIn

/-- The token that a group gives. -/
def tokenOut (g : SwapGroup) : Address := (g.later.getLastD g.first).tokenOut

/-- The fraction of a group. -/
def split (g : SwapGroup) : Binary64 := g.first.split

/-- The id of the first pool, written as an address. -/
def entryPool (g : SwapGroup) : Address := ⟨g.first.pool.id⟩

end SwapGroup

namespace Route

/-- Whether a swap joins the one before it. -/
def joins (capabilities : Capabilities) (isFork : Address → Bool) (before next : Swap) : Bool :=
  next.protocol = before.protocol && capabilities.isGroupable next.protocol
    && next.split.isZero && next.tokenIn = before.tokenOut && !isFork next.tokenIn

/-- Puts a swap in front of groups. -/
def consGroup (joins : Swap → Swap → Bool) (s : Swap) : List SwapGroup → List SwapGroup
  | [] => [⟨s, []⟩]
  | g :: groups => if joins s g.first then ⟨s, g.swaps⟩ :: groups else ⟨s, []⟩ :: g :: groups

/-- Merges consecutive swaps that join. -/
def group (capabilities : Capabilities) (swaps : List Swap) : List SwapGroup :=
  swaps.foldr (consGroup (joins capabilities (isFork swaps))) []

theorem flatMap_swaps_consGroup (joins : Swap → Swap → Bool) (s : Swap)
    (groups : List SwapGroup) :
    (consGroup joins s groups).flatMap SwapGroup.swaps = s :: groups.flatMap SwapGroup.swaps := by
  cases groups with
  | nil => rfl
  | cons g groups =>
    by_cases h : joins s g.first = true <;> simp [consGroup, h, SwapGroup.swaps]

/-- Grouping loses no swap and keeps their order. -/
theorem flatMap_swaps_group (capabilities : Capabilities) (swaps : List Swap) :
    (group capabilities swaps).flatMap SwapGroup.swaps = swaps := by
  unfold group
  generalize joins capabilities (isFork swaps) = j
  induction swaps with
  | nil => rfl
  | cons s rest ih => rw [List.foldr_cons, flatMap_swaps_consGroup, ih]

end Route

end SwapRouter
