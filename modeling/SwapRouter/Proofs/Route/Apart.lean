import SwapRouter.Proofs.Pattern
import SwapRouter.Proofs.Route.Join

/-!
# Protocols that are never merged

A protocol that takes its funds from the router alone must not be merged with others of its kind:
within a group tokens move between the pools and never see the router.  `Capabilities.isConsistent`
is meant to rule this out.  It compares the patterns of the two sets as they are written, however,
and two different patterns may name one protocol, as `uniswap_*` and `uniswap_v4` do.

The sets are *apart* if no pattern of the one meets a pattern of the other.  This is what decides:
if two patterns meet, the protocol that both name is in both sets, and two swaps of it that follow
each other are merged.

* `Capabilities.isApart_of_exact`: what is compared is enough if the patterns have no `*`.
* `Capabilities.excludes_and_keepsAlone_iff`: **the sets exclude each other exactly if they are
  apart, and swaps of protocols that are unsupported for chaining stay alone exactly then.**
-/

namespace SwapRouter

open Route (joins_iff merged_iff protocol_of_mem_group)

namespace Capabilities

variable {c : Capabilities}

/-- No protocol is both merged and unsupported for chaining. -/
def Excludes (c : Capabilities) : Prop :=
  ∀ protocol, ¬ (c.isGroupable protocol = true ∧ c.isUnsupportedForChaining protocol = true)

/-- Each swap of a protocol that is unsupported for chaining is alone in its group. -/
def KeepsAlone (c : Capabilities) : Prop :=
  ∀ swaps, ∀ g ∈ Route.group c swaps, ∀ s ∈ g.swaps,
    c.isUnsupportedForChaining s.protocol = true → g.swaps = [s]

/-- Whether no pattern of what is merged meets one of what is unsupported for chaining. -/
def isApart (c : Capabilities) : Bool :=
  c.groupable.patterns.all fun a =>
    c.unsupportedForChaining.patterns.all fun b => !patternsMeet a b

theorem isApart_iff :
    c.isApart = true ↔
      ∀ a ∈ c.groupable.patterns, ∀ b ∈ c.unsupportedForChaining.patterns,
        patternsMeet a b = false := by
  simp [isApart]

/-! ## Single protocols -/

/-- **No protocol is in both sets exactly if they are apart.** -/
theorem excludes_iff : c.Excludes ↔ c.isApart = true := by
  rw [isApart_iff]
  constructor
  · intro h a ha b hb
    refine Bool.eq_false_iff.2 fun hmeet => ?_
    obtain ⟨protocol, hpa, hpb⟩ := exists_namesProtocol_iff.2 hmeet
    exact h protocol ⟨List.any_eq_true.2 ⟨a, ha, hpa⟩, List.any_eq_true.2 ⟨b, hb, hpb⟩⟩
  · rintro h protocol ⟨hgroupable, hunsupported⟩
    obtain ⟨a, ha, hpa⟩ := List.any_eq_true.1 hgroupable
    obtain ⟨b, hb, hpb⟩ := List.any_eq_true.1 hunsupported
    have hmeet := exists_namesProtocol_iff.1 ⟨protocol, hpa, hpb⟩
    rw [h a ha b hb] at hmeet
    cases hmeet

/-- **Sets of names without a `*` are apart**, since no name is in both of them. -/
theorem isApart_of_exact (hgroupable : ∀ a ∈ c.groupable.patterns, Pattern.star ∉ Text.codes a)
    (hunsupported : ∀ b ∈ c.unsupportedForChaining.patterns, Pattern.star ∉ Text.codes b) :
    c.isApart = true := by
  refine isApart_iff.2 fun a ha b hb => ?_
  have hne : a ≠ b := fun h => c.isConsistent a ha (h ▸ hb)
  simp [patternsMeet, namesProtocol, hgroupable a ha, hunsupported b hb, hne, hne.symm]

/-- The tables that come with the program are apart. -/
example : Bundled.capabilities.isApart = true :=
  isApart_of_exact (by decide +kernel) (by decide +kernel)

/-! ## Groups -/

/-- A swap of a protocol, whatever its pool is. -/
def link (protocol : String) (tokenIn tokenOut : Address) : Swap where
  pool := ⟨"", protocol, [], []⟩
  tokenIn := tokenIn
  tokenOut := tokenOut

/-- Two swaps of a protocol that follow each other are merged if it is groupable. -/
theorem exists_pair_infix_of_isGroupable {protocol : String} {a b d : Address}
    (h : c.isGroupable protocol = true) (hab : a ≠ b) :
    ∃ g ∈ Route.group c [link protocol a b, link protocol b d],
      [link protocol a b, link protocol b d] <:+: g.swaps := by
  refine merged_iff.2 ⟨List.infix_rfl, joins_iff.2 ⟨rfl, h, rfl, rfl, ?_⟩⟩
  simp [Route.isFork, Route.outgoingOf, link, hab]

/-- A group with more than one swap is of a groupable protocol. -/
theorem eq_singleton_of_not_isGroupable {swaps : List Swap} {g : SwapGroup} {s : Swap}
    (hg : g ∈ Route.group c swaps) (hs : s ∈ g.swaps) (h : ¬ c.isGroupable s.protocol = true) :
    g.swaps = [s] := by
  obtain ⟨first, later⟩ := g
  cases later with
  | nil => rw [List.mem_singleton.1 hs]; rfl
  | cons next later =>
    have hpair : [first, next] <:+: first :: next :: later := ⟨[], later, rfl⟩
    obtain ⟨-, hnext, -⟩ := joins_iff.1 (merged_iff.1 ⟨_, hg, hpair⟩).2
    have hmem : next ∈ (⟨first, next :: later⟩ : SwapGroup).swaps := by simp [SwapGroup.swaps]
    rw [protocol_of_mem_group hg hmem, ← protocol_of_mem_group hg hs] at hnext
    exact absurd hnext h

/-- **Swaps of protocols that are unsupported for chaining stay alone exactly if the sets are
apart.** -/
theorem keepsAlone_iff : c.KeepsAlone ↔ c.isApart = true := by
  rw [← excludes_iff]
  constructor
  · rintro h protocol ⟨hgroupable, hunsupported⟩
    have hab : (⟨"a"⟩ : Address) ≠ ⟨"b"⟩ := by decide
    obtain ⟨g, hg, hpair⟩ := exists_pair_infix_of_isGroupable (d := ⟨"a"⟩) hgroupable hab
    have hmem := hpair.subset List.mem_cons_self
    have hlen := hpair.length_le
    rw [h _ g hg _ hmem hunsupported] at hlen
    exact absurd hlen (by simp)
  · intro h swaps g hg s hs hunsupported
    exact eq_singleton_of_not_isGroupable hg hs fun hgroupable =>
      h s.protocol ⟨hgroupable, hunsupported⟩

/-- **No protocol is both merged and unsupported for chaining exactly if the sets are apart, and
exactly then each swap of a protocol that is unsupported for chaining is alone in its group.** -/
theorem excludes_and_keepsAlone_iff (c : Capabilities) :
    (c.Excludes ↔ c.isApart = true) ∧ (c.KeepsAlone ↔ c.isApart = true) :=
  ⟨excludes_iff, keepsAlone_iff⟩

end Capabilities

namespace Sample

/-- A set of protocols by a pattern, and another one with one of them by its name. -/
def overlapping : Capabilities where
  groupable.patterns := ["uniswap_*"]
  unsupportedForChaining.patterns := ["uniswap_v4"]
  isConsistent := by decide

/-- Sets that share no pattern are accepted although one protocol is in both of them, and two of
its swaps are merged. -/
theorem not_keepsAlone_overlapping :
    Capabilities.ofSets ⟨["uniswap_*"], []⟩ {} ⟨["uniswap_v4"], []⟩ {} = .ok overlapping ∧
      ¬ overlapping.Excludes ∧ ¬ overlapping.KeepsAlone ∧
        Route.group overlapping [swap pooledUsdcWeth weth usdc, swap pooledDaiUsdc usdc dai] =
          [⟨swap pooledUsdcWeth weth usdc, [swap pooledDaiUsdc usdc dai]⟩] := by
  have hmeet : overlapping.isApart = false := by decide +kernel
  refine ⟨rfl, ?_, ?_, by decide +kernel⟩
  · rw [Capabilities.excludes_iff, hmeet]
    exact Bool.false_ne_true
  · rw [Capabilities.keepsAlone_iff, hmeet]
    exact Bool.false_ne_true

end Sample

end SwapRouter
