import SwapRouter.Proofs.Reason.Address
import SwapRouter.Proofs.Route.HopHeader
import SwapRouter.Proofs.Route.Line

/-!
# The chunks of encoded swaps

For each group the router calls the executor of its protocol with the data of its swaps.  An order
with one group is written as that call; the functions for several groups write the calls as chunks,
with a header in front where the order has forks.  The chunks are read back whatever stands in them,
so the calls are found in the encoded swaps one by one, in the order of the groups.

Once an order has passed the checks and its groups are encoded, two things are left that can fail.
A chunk may be too long for the two bytes of its length, and the permit that the order is finished
with may not be had: a signer has to read a nonce from the chain.  The first is seen before the
second is tried, and what a permit comes to depends on no approval and on nothing that was asked
before.  So the failures for want of a working setup are exactly those of a long chunk and those of
the permit.

* `Strategies.CallsExecutor`, `Strategies.outcome_encodeGroup_eq_ok_iff`: the call for a group.
* `Strategies.HasChunks`: the chunks of an order, call by call.
* `Strategies.writesHops`: **the encoded swaps are the calls for the groups**, and which chunks are
  refused.
-/

namespace SwapRouter

/-- A computation fails for want of a working setup. -/
def IsFatal {α : Type} (x : Except Failure α) : Prop :=
  ∃ e : EncodingError, x = .error (.encoding e) ∧ e.kind = .fatal

section Fatal

variable {α β : Type}

theorem not_isFatal_ok (a : α) : ¬ IsFatal (.ok a : Except Failure α) := by
  rintro ⟨e, he, -⟩
  cases he

theorem isFatal_map_iff {x : Except Failure α} {f : α → β} : IsFatal (x.map f) ↔ IsFatal x := by
  cases x with
  | error e =>
    constructor <;>
    · rintro ⟨e', he, hkind⟩
      cases he
      exact ⟨e', rfl, hkind⟩
  | ok a => exact iff_of_false (not_isFatal_ok _) (not_isFatal_ok _)

end Fatal

namespace Strategies

variable {t : Strategies} {f : RouterFunction} {order : Order} {router : Address}
  {approvals : Option ApprovalSource} {c : Circumstances} {e : EncodedOrder}

/-! ## The call for a group -/

/-- Bytes call the executor of the protocol of a group: its address, and the data of the swaps of
the group, of which those behind the first are chunks. -/
def CallsExecutor (t : Strategies) (c : Circumstances) (p : PlannedGroup) (bs : Bytes) : Prop :=
  ∃ e executor parts data, t.encoders.get p.group.protocol = .ok e ∧
    e.executor.fieldBytes "executor address" = .ok executor ∧
    List.Forall₂ (fun s part => (e.encode s p.context).outcome c = .ok part) p.group.swaps parts ∧
    joinGroup parts = .ok data ∧ bs = executor ++ data

/-- A group is encoded as the call of its executor. -/
theorem outcome_encodeGroup_eq_ok_iff {p : PlannedGroup} {bs : Bytes} :
    (t.encodeGroup p).outcome c = .ok bs ↔ t.CallsExecutor c p bs := by
  unfold encodeGroup CallsExecutor
  constructor
  · intro h
    obtain ⟨e, he, h⟩ := Encode.outcome_bind_eq_ok_iff.1 h
    obtain ⟨parts, hparts, h⟩ := Encode.outcome_bind_eq_ok_iff.1 h
    obtain ⟨data, hdata, h⟩ := Encode.outcome_bind_eq_ok_iff.1 h
    obtain ⟨executor, hexecutor, h⟩ := Encode.outcome_bind_eq_ok_iff.1 h
    cases h
    rw [Encode.outcome_require_eq_ok_iff] at he hdata
    rw [Encode.outcome_ofExcept] at hexecutor
    rw [Encode.outcome_sideBySide_eq_ok_iff, List.map_map, map_eq_map_ok_iff] at hparts
    exact ⟨e, executor, parts, data, he, hexecutor, hparts, hdata, rfl⟩
  · rintro ⟨e, executor, parts, data, he, hexecutor, hparts, hdata, rfl⟩
    refine Encode.outcome_bind_eq_ok_iff.2 ⟨e, Encode.outcome_require_eq_ok_iff.2 he, ?_⟩
    refine Encode.outcome_bind_eq_ok_iff.2 ⟨parts, ?_, ?_⟩
    · rw [Encode.outcome_sideBySide_eq_ok_iff, List.map_map, map_eq_map_ok_iff]
      exact hparts
    · refine Encode.outcome_bind_eq_ok_iff.2
        ⟨data, Encode.outcome_require_eq_ok_iff.2 hdata, ?_⟩
      exact Encode.outcome_bind_eq_ok_iff.2
        ⟨executor, (Encode.outcome_ofExcept _).trans hexecutor, rfl⟩

/-- The groups of an order with their contexts, for a function of the router. -/
def planFor (t : Strategies) (f : RouterFunction) (order : Order) (router : Address)
    (approvals : Option ApprovalSource) : List PlannedGroup :=
  match f with
  | .split => (t.groupsOf order).map fun g =>
      ⟨g, contextOf order g router (t.splitHop order router g) approvals⟩
  | .single | .sequential => t.planLinear order router approvals (t.groupsOf order)

theorem map_group_planLinear (t : Strategies) (order : Order) (router : Address)
    (approvals : Option ApprovalSource) (groups : List SwapGroup) :
    (t.planLinear order router approvals groups).map PlannedGroup.group = groups := by
  rw [planLinear, ← List.map_uncurry_zip_eq_zipWith, List.map_map]
  exact List.map_fst_zip length_plan.ge

/-- Every group of an order has its place in the plan. -/
theorem map_group_planFor (t : Strategies) (f : RouterFunction) (order : Order)
    (router : Address) (approvals : Option ApprovalSource) :
    (t.planFor f order router approvals).map PlannedGroup.group = t.groupsOf order := by
  cases f with
  | single => exact map_group_planLinear t order router approvals _
  | sequential => exact map_group_planLinear t order router approvals _
  | split => rw [planFor, List.map_map]; exact List.map_id _

/-! ## Joining calls -/

theorem not_isFatal_signedPermit (h : t.usesPermit order = false) :
    ¬ IsFatal ((t.signedPermit order router).outcome c) := by
  rw [signedPermit, h]
  exact not_isFatal_ok _

/-- The last steps of the functions for several groups: the groups are encoded side by side, and the
chunks that are made of their calls are joined. -/
def joinCalls (t : Strategies) (f : RouterFunction) (order : Order) (router : Address)
    (plan : List PlannedGroup) (chunksOf : List Bytes → List Bytes) (count : ℕ) :
    Encode EncodedOrder := do
  let calls ← .sideBySide (plan.map t.encodeGroup)
  let swaps ← .require (Wire.join (chunksOf calls))
  t.finish f order router swaps count

theorem encodeSequential_eq :
    t.encodeSequential order router approvals = (do
      .require (t.checkPath order)
      t.joinCalls .sequential order router (t.planFor .sequential order router approvals) id 0) :=
  rfl

theorem encodeSplit_eq :
    t.encodeSplit order router approvals = (do
      .require (Route.checkSplits order.swaps)
      .require (t.checkPath order)
      let headers ← .ofExcept (splitHeaders (t.tableOf order) (t.groupsOf order))
      t.joinCalls .split order router (t.planFor .split order router approvals)
        (List.zipWith (· ++ ·) headers) (Route.tokenCount order (t.tableOf order))) := by
  unfold joinCalls planFor
  dsimp only
  rw [List.map_map]
  rfl

variable {plan : List PlannedGroup} {chunksOf : List Bytes → List Bytes} {count : ℕ}

theorem outcome_sideBySide_encodeGroup_eq_ok_iff {calls : List Bytes} :
    (Encode.sideBySide (plan.map t.encodeGroup)).outcome c = .ok calls ↔
      List.Forall₂ (t.CallsExecutor c) plan calls := by
  rw [Encode.outcome_sideBySide_eq_ok_iff, List.map_map, map_eq_map_ok_iff]
  have hcalls : (fun p bs => (fun x => Encode.outcome x c) (t.encodeGroup p) = .ok bs) =
      t.CallsExecutor c := by
    funext p bs
    exact propext outcome_encodeGroup_eq_ok_iff
  exact Iff.of_eq (congrArg (fun R => List.Forall₂ R plan calls) hcalls)

/-- The chunks are read back. -/
theorem exists_calls_of_joinCalls
    (h : (t.joinCalls f order router plan chunksOf count).outcome c = .ok e) :
    ∃ calls, List.Forall₂ (t.CallsExecutor c) plan calls ∧
      Wire.split? e.swaps = some (chunksOf calls) := by
  obtain ⟨calls, hcalls, h⟩ := Encode.outcome_bind_eq_ok_iff.1 h
  obtain ⟨swaps, hswaps, h⟩ := Encode.outcome_bind_eq_ok_iff.1 h
  rw [Encode.outcome_require_eq_ok_iff] at hswaps
  refine ⟨calls, outcome_sideBySide_encodeGroup_eq_ok_iff.1 hcalls, ?_⟩
  rw [(isFinished_of_finish h).swaps, Wire.split?_eq_some_iff, hswaps]

/-- **What is left to fail** once the groups are encoded: a long chunk, and the permit. -/
theorem isFatal_joinCalls_iff {calls : List Bytes}
    (hcalls : List.Forall₂ (t.CallsExecutor c) plan calls) :
    IsFatal ((t.joinCalls f order router plan chunksOf count).outcome c) ↔
      (∃ chunk ∈ chunksOf calls, Wire.maxChunk < chunk.length) ∨
        IsFatal ((t.signedPermit order router).outcome c) := by
  obtain ⟨d, hd⟩ := Encode.exists_outcome_bind
    (outcome_sideBySide_encodeGroup_eq_ok_iff.2 hcalls) fun calls => do
      let swaps ← .require (Wire.join (chunksOf calls))
      t.finish f order router swaps count
  rw [joinCalls, hd]
  obtain ⟨hshort, swaps, hswaps⟩ | ⟨chunk, hmem, hlong, herror⟩ := Wire.join_cases (chunksOf calls)
  · have hnone : ¬ ∃ chunk ∈ chunksOf calls, Wire.maxChunk < chunk.length := by
      rintro ⟨chunk, hmem, hlong⟩
      exact absurd (hshort chunk hmem) (Nat.not_le_of_lt hlong)
    have hfinish : (Encode.require (Except.ok swaps) >>= fun swaps =>
        t.finish f order router swaps count).outcome d =
        (t.finish f order router swaps count).outcome d := rfl
    rw [hswaps, hfinish, outcome_finish, isFatal_map_iff, isConstant_signedPermit d c,
      or_iff_right hnone]
  · rw [herror]
    exact iff_of_true ⟨_, rfl, rfl⟩ (Or.inl ⟨chunk, hmem, hlong⟩)

/-! ## Orders -/

/-- The chunks of an order for a function with several groups: the calls for the groups one by one,
and in front of them, if the order has forks, the headers that describe the groups. -/
inductive HasChunks (t : Strategies) (order : Order) (router : Address)
    (approvals : Option ApprovalSource) (c : Circumstances) : RouterFunction → List Bytes → Prop
  | sequential {calls : List Bytes} :
    List.Forall₂ (t.CallsExecutor c) (t.planFor .sequential order router approvals) calls →
    HasChunks t order router approvals c .sequential calls
  | split {headers : List HopHeader} {calls : List Bytes} :
    HopHeader.DescribeAll (t.tableOf order) (t.groupsOf order) headers →
    (∀ h ∈ headers, h.Fits) →
    List.Forall₂ (t.CallsExecutor c) (t.planFor .split order router approvals) calls →
    HasChunks t order router approvals c .split
      (List.zipWith (· ++ ·) (headers.map HopHeader.bytes) calls)

/-- How the swaps of an order are written.  The groups are planned one by one; one group is its call,
several are chunks that are read back; and if the groups of an order that passes the checks are
encoded, a long chunk and the permit are what can be wrong with the setup. -/
structure WritesHops (t : Strategies) (order : Order) (router : Address)
    (approvals : Option ApprovalSource) (c : Circumstances) : Prop where
  groups : ∀ f, (t.planFor f order router approvals).map PlannedGroup.group = t.groupsOf order
  single : ∀ e, (t.encodeFor .single order router approvals).outcome c = .ok e →
    ∃ p, t.planFor .single order router approvals = [p] ∧ t.CallsExecutor c p e.swaps
  chunks : ∀ f e, f ≠ .single → (t.encodeFor f order router approvals).outcome c = .ok e →
    ∃ chunks, Wire.split? e.swaps = some chunks ∧ t.HasChunks order router approvals c f chunks
  fatal : ∀ f chunks, (f = .split → Route.checkSplits order.swaps = .ok ()) →
    t.checkPath order = .ok () → t.HasChunks order router approvals c f chunks →
    (IsFatal ((t.encodeFor f order router approvals).outcome c) ↔
      (∃ chunk ∈ chunks, Wire.maxChunk < chunk.length) ∨
        t.usesPermit order = true ∧ IsFatal ((t.signedPermit order router).outcome c))

theorem exists_call_of_encodeSingle
    (h : (t.encodeSingle order router approvals).outcome c = .ok e) :
    ∃ p, t.planFor .single order router approvals = [p] ∧ t.CallsExecutor c p e.swaps := by
  unfold encodeSingle at h
  dsimp only at h
  split at h
  next g hgroups =>
    split at h
    · cases h
    · obtain ⟨-, hplan⟩ := Encode.eq_ok_of_outcome_require_bind h
      split at hplan
      next p hp =>
        obtain ⟨swaps, hswaps, hfinish⟩ := Encode.outcome_bind_eq_ok_iff.1 hplan
        have hgroupsOf : t.groupsOf order = [g] := hgroups
        refine ⟨p, ?_, ?_⟩
        · rw [planFor, hgroupsOf, hp]
        · rw [(isFinished_of_finish hfinish).swaps]
          exact outcome_encodeGroup_eq_ok_iff.1 hswaps
      next => cases hplan
  next => cases h

theorem exists_chunks_of_encodeFor (hf : f ≠ .single)
    (h : (t.encodeFor f order router approvals).outcome c = .ok e) :
    ∃ chunks, Wire.split? e.swaps = some chunks ∧ t.HasChunks order router approvals c f chunks := by
  cases f with
  | single => exact absurd rfl hf
  | sequential =>
    rw [encodeFor, encodeSequential_eq] at h
    obtain ⟨-, h⟩ := Encode.eq_ok_of_outcome_require_bind h
    obtain ⟨calls, hcalls, hsplit⟩ := exists_calls_of_joinCalls h
    exact ⟨calls, hsplit, .sequential hcalls⟩
  | split =>
    rw [encodeFor, encodeSplit_eq] at h
    obtain ⟨-, h⟩ := Encode.eq_ok_of_outcome_require_bind h
    obtain ⟨-, h⟩ := Encode.eq_ok_of_outcome_require_bind h
    obtain ⟨written, hwritten, h⟩ := Encode.outcome_bind_eq_ok_iff.1 h
    rw [Encode.outcome_ofExcept, HopHeader.splitHeaders_eq_ok_iff] at hwritten
    obtain ⟨headers, hall, hfits, rfl⟩ := hwritten
    obtain ⟨calls, hcalls, hsplit⟩ := exists_calls_of_joinCalls h
    exact ⟨_, hsplit, .split hall hfits hcalls⟩

/-- **What is wrong with the setup** once the groups are encoded. -/
theorem isFatal_encodeFor_iff {chunks : List Bytes}
    (hsplits : f = .split → Route.checkSplits order.swaps = .ok ())
    (hpath : t.checkPath order = .ok ())
    (hchunks : t.HasChunks order router approvals c f chunks) :
    IsFatal ((t.encodeFor f order router approvals).outcome c) ↔
      (∃ chunk ∈ chunks, Wire.maxChunk < chunk.length) ∨
        t.usesPermit order = true ∧ IsFatal ((t.signedPermit order router).outcome c) := by
  have huses : (t.usesPermit order = true ∧ IsFatal ((t.signedPermit order router).outcome c)) ↔
      IsFatal ((t.signedPermit order router).outcome c) := by
    refine and_iff_right_of_imp fun hfatal => ?_
    by_contra hnone
    exact not_isFatal_signedPermit (Bool.eq_false_iff.2 hnone) hfatal
  rw [huses]
  cases hchunks with
  | sequential hcalls =>
    rw [encodeFor, encodeSequential_eq, hpath]
    exact isFatal_joinCalls_iff hcalls
  | split hall hfits hcalls =>
    rw [encodeFor, encodeSplit_eq, hsplits rfl, hpath,
      HopHeader.splitHeaders_eq_ok_iff.2 ⟨_, hall, hfits, rfl⟩]
    exact isFatal_joinCalls_iff hcalls

/-- **The encoded swaps are the calls for the groups**, and are refused if a chunk is too long. -/
theorem writesHops (t : Strategies) (order : Order) (router : Address)
    (approvals : Option ApprovalSource) (c : Circumstances) :
    t.WritesHops order router approvals c where
  groups f := map_group_planFor t f order router approvals
  single _ h := exists_call_of_encodeSingle h
  chunks _ _ hf h := exists_chunks_of_encodeFor hf h
  fatal _ _ hsplits hpath hchunks := isFatal_encodeFor_iff hsplits hpath hchunks

end Strategies

namespace Sample

def unreadKey : Secp256k1.SecretKey := ⟨1, by decide, by decide⟩

/-- Encoders with a signer that cannot read from the chain. -/
def unreadStrategies : Strategies where
  config := strategies.config
  encoders := strategies.encoders
  signer := some ⟨unreadKey, Signer.addressOf unreadKey, .ethereum, some 1700000000, none⟩

/-- A path of two swaps that the signer sends. -/
def unreadSale : Order := { inOrder with sender := Signer.addressOf unreadKey }

theorem isFatal_signedPermit_unreadSale :
    IsFatal ((unreadStrategies.signedPermit unreadSale router).outcome {}) := by
  have howner : unreadSale.sender.normal = Signer.addressOf unreadKey :=
    Address.normal_ofBytes (by rw [List.length_drop, Keccak.length_hash])
  have huses : unreadStrategies.usesPermit unreadSale = true := rfl
  rw [Strategies.signedPermit, huses]
  dsimp only [if_true, unreadStrategies]
  refine ⟨.noNonceSource, Encode.outcome_bind_of_error ?_, rfl⟩
  rw [Signer.permit, if_neg (not_not_intro howner), if_neg (by decide)]
  rfl

theorem exists_chunks_unreadSale :
    ∃ chunks, unreadStrategies.HasChunks unreadSale router none {} .sequential chunks ∧
      ∀ chunk ∈ chunks, chunk.length ≤ Wire.maxChunk := by
  have hrun : (((Encode.sideBySide ((unreadStrategies.planFor .sequential unreadSale router none).map
      unreadStrategies.encodeGroup)).outcome {}).toOption.any fun calls =>
        calls.all fun call => call.length ≤ Wire.maxChunk) = true := by decide +kernel
  obtain ⟨hsome, hshort⟩ := (Option.any_eq_true_iff_get _ _).1 hrun
  have hcalls := eq_ok_of_toOption_eq_some (Option.some_get hsome).symm
  refine ⟨_, .sequential (Strategies.outcome_sideBySide_encodeGroup_eq_ok_iff.1 hcalls), ?_⟩
  exact fun chunk hchunk => of_decide_eq_true (List.all_eq_true.1 hshort chunk hchunk)

/-- An order that passes the checks, and whose groups are encoded in short chunks, fails for want of
a working setup all the same: its permit needs a nonce. -/
theorem isFatal_unreadSale :
    unreadStrategies.Passes .sequential unreadSale ∧
      (∃ chunks, unreadStrategies.HasChunks unreadSale router none {} .sequential chunks ∧
        ∀ chunk ∈ chunks, chunk.length ≤ Wire.maxChunk) ∧
      IsFatal ((unreadStrategies.encodeFor .sequential unreadSale router none).outcome {}) := by
  have hpasses : unreadStrategies.Passes .sequential unreadSale :=
    ⟨eq_ok_of_toOption_eq_some (by decide +kernel), fun h => absurd h (by decide),
      eq_ok_of_toOption_eq_some (by decide +kernel)⟩
  obtain ⟨chunks, hchunks, hshort⟩ := exists_chunks_unreadSale
  refine ⟨hpasses, ⟨chunks, hchunks, hshort⟩, ?_⟩
  exact (Strategies.isFatal_encodeFor_iff hpasses.fractions hpasses.path hchunks).2
    (Or.inr ⟨rfl, isFatal_signedPermit_unreadSale⟩)

end Sample

end SwapRouter
