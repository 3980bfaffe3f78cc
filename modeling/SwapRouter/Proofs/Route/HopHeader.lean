import SwapRouter.Proofs.Finish
import SwapRouter.Proofs.Route.TokenTable
import SwapRouter.Proofs.Wire

/-!
# The headers of an order with forks

In front of every hop of an order with forks stand the places of its two tokens and the number of
parts of its input that it takes.  A router reads them off the encoded swaps, chunk by chunk.

* `HopHeader`, `HopHeader.readAll?`: what a router reads.
* `HopHeader.Describes`, `HopHeader.DescribeAll`: what it says of the groups of the order.
* `HopHeader.splitHeaders_eq_ok_iff`: the headers that are written are the ones that describe the
  groups.
* `Strategies.exists_describeAll_of_encodeSplit`: **the headers of the encoded swaps describe the
  groups**, one by one.
-/

namespace SwapRouter

/-- What stands in front of a hop: the places of its two tokens, and the parts of its input that it
takes. -/
structure HopHeader where
  tokenIn : Nat
  tokenOut : Nat
  parts : Nat
  deriving DecidableEq

namespace HopHeader

/-- Reads the five bytes in front of a hop. -/
def read? : Bytes → Option HopHeader
  | tokenIn :: tokenOut :: high :: middle :: low :: _ =>
    some ⟨tokenIn.toNat, tokenOut.toNat, Bytes.toNat [high, middle, low]⟩
  | _ => none

/-- Reads the headers of encoded swaps. -/
def readAll? (swaps : Bytes) : Option (List HopHeader) := do
  let hops ← Wire.split? swaps
  hops.mapM read?

/-- A header says of a group, in front of other swaps, where its tokens stand in a table, and how
many parts of its input it takes: none, which stands for the rest, if no later swap takes its input,
and else the parts that are nearest to its fraction. -/
structure Describes (table : List Address) (g : SwapGroup) (later : List Swap) (h : HopHeader) :
    Prop where
  tokenIn : Route.tokenPosition table g.tokenIn = .ok h.tokenIn
  tokenOut : Route.tokenPosition table g.tokenOut = .ok h.tokenOut
  parts : if Route.isLastOut g.first later then h.parts = 0
    else Wire.fractionParts g.split = .ok h.parts

/-- Headers describe groups one by one. -/
inductive DescribeAll (table : List Address) : List SwapGroup → List HopHeader → Prop
  | nil : DescribeAll table [] []
  | cons {g : SwapGroup} {groups : List SwapGroup} {h : HopHeader} {headers : List HopHeader} :
    Describes table g (g.later ++ groups.flatMap SwapGroup.swaps) h →
    DescribeAll table groups headers → DescribeAll table (g :: groups) (h :: headers)

variable {table : List Address} {g : SwapGroup} {groups : List SwapGroup} {later : List Swap}

theorem DescribeAll.length_eq {headers : List HopHeader} (h : DescribeAll table groups headers) :
    headers.length = groups.length := by
  induction h with
  | nil => rfl
  | cons _ _ ih => rw [List.length_cons, List.length_cons, ih]

/-! ## Writing and reading -/

/-- The five bytes in front of a hop. -/
def bytes (h : HopHeader) : Bytes :=
  Bytes.ofNat 1 h.tokenIn ++ Bytes.ofNat 1 h.tokenOut ++ Bytes.ofNat 3 h.parts

/-- The numbers of a header fit their fields. -/
structure Fits (h : HopHeader) : Prop where
  tokenIn : h.tokenIn < Nat.pow 256 1
  tokenOut : h.tokenOut < Nat.pow 256 1
  parts : h.parts < Nat.pow 256 3

@[simp] theorem length_bytes (h : HopHeader) : h.bytes.length = 5 := by
  simp [bytes]

theorem read?_append {first second third data : Bytes} (hfirst : first.length = 1)
    (hsecond : second.length = 1) (hthird : third.length = 3) :
    read? (first ++ second ++ third ++ data) =
      some ⟨Bytes.toNat first, Bytes.toNat second, Bytes.toNat third⟩ := by
  obtain ⟨a, rfl⟩ := List.length_eq_one_iff.1 hfirst
  obtain ⟨b, rfl⟩ := List.length_eq_one_iff.1 hsecond
  obtain ⟨x, y, z, rfl⟩ := List.length_eq_three.1 hthird
  simp [read?, Bytes.toNat]

/-- A header is read back, whatever hop it stands in front of. -/
theorem Fits.read?_bytes {h : HopHeader} (hfits : h.Fits) (data : Bytes) :
    read? (h.bytes ++ data) = some h := by
  rw [bytes, read?_append (Bytes.length_ofNat 1 _) (Bytes.length_ofNat 1 _)
    (Bytes.length_ofNat 3 _), Bytes.toNat_ofNat_of_lt hfits.tokenIn,
    Bytes.toNat_ofNat_of_lt hfits.tokenOut, Bytes.toNat_ofNat_of_lt hfits.parts]

theorem position_eq_ok_iff {token : Address} {n : Nat} :
    Strategies.splitHeader.position table token = .ok n ↔
      Route.tokenPosition table token = .ok n := by
  rw [Strategies.splitHeader.position]
  cases Route.tokenPosition table token with
  | ok m => rw [Except.ok.injEq, Except.ok.injEq]
  | error e => exact iff_of_false (fun h => by cases h) fun h => by cases h

theorem fixed_natCast_eq_ok_iff {size n : Nat} {bs : Bytes} :
    Wire.fixed size n = .ok bs ↔ n < Nat.pow 256 size ∧ Bytes.ofNat size n = bs := by
  rw [Wire.fixed_eq_ok_iff, and_iff_right (Int.natCast_nonneg n)]
  rfl

/-- What is written for two tokens and a number of parts are the bytes of their header. -/
theorem write_eq_ok_iff {parts : Int} {bs : Bytes} :
    (do
      let tokenIn ← Strategies.splitHeader.position table g.tokenIn
      let tokenOut ← Strategies.splitHeader.position table g.tokenOut
      let inByte ← Wire.fixed 1 tokenIn
      let outByte ← Wire.fixed 1 tokenOut
      let partBytes ← Wire.fixed 3 parts
      return inByte ++ outByte ++ partBytes : Except Failure Bytes) = .ok bs ↔
    ∃ h : HopHeader, Route.tokenPosition table g.tokenIn = .ok h.tokenIn ∧
      Route.tokenPosition table g.tokenOut = .ok h.tokenOut ∧ parts = h.parts ∧ h.Fits ∧
      h.bytes = bs := by
  simp only [bind_eq_ok_iff, position_eq_ok_iff, fixed_natCast_eq_ok_iff]
  constructor
  · rintro ⟨tokenIn, hin, tokenOut, hout, _, ⟨hinLt, rfl⟩, _, ⟨houtLt, rfl⟩, partBytes, hparts, hbs⟩
    cases hbs
    obtain ⟨⟨hpos, hlt⟩, rfl⟩ := Wire.fixed_eq_ok_iff.1 hparts
    exact ⟨⟨tokenIn, tokenOut, parts.toNat⟩, hin, hout, (Int.toNat_of_nonneg hpos).symm,
      ⟨hinLt, houtLt, hlt⟩, rfl⟩
  · rintro ⟨h, hin, hout, rfl, hfits, rfl⟩
    exact ⟨h.tokenIn, hin, h.tokenOut, hout, _, ⟨hfits.tokenIn, rfl⟩, _, ⟨hfits.tokenOut, rfl⟩, _,
      fixed_natCast_eq_ok_iff.2 ⟨hfits.parts, rfl⟩, rfl⟩

/-- **The header that is written for a group** is the one that describes it. -/
theorem splitHeader_eq_ok_iff {bs : Bytes} :
    Strategies.splitHeader table g later = .ok bs ↔
      ∃ h : HopHeader, Describes table g later h ∧ h.Fits ∧ h.bytes = bs := by
  unfold Strategies.splitHeader
  dsimp only
  split
  next hlast =>
    rw [pure_bind, write_eq_ok_iff]
    constructor
    · rintro ⟨h, hin, hout, hparts, hfits, hbs⟩
      exact ⟨h, ⟨hin, hout, by rw [if_pos hlast]; exact (Int.ofNat.inj hparts).symm⟩, hfits, hbs⟩
    · rintro ⟨h, hdescribes, hfits, hbs⟩
      have hparts := hdescribes.parts
      rw [if_pos hlast] at hparts
      exact ⟨h, hdescribes.tokenIn, hdescribes.tokenOut, by rw [hparts]; rfl, hfits, hbs⟩
  next hlast =>
    rw [bind_eq_ok_iff]
    constructor
    · rintro ⟨parts, hfraction, hwrite⟩
      obtain ⟨h, hin, hout, rfl, hfits, hbs⟩ := write_eq_ok_iff.1 hwrite
      exact ⟨h, ⟨hin, hout, by rw [if_neg hlast, hfraction]⟩, hfits, hbs⟩
    · rintro ⟨h, hdescribes, hfits, hbs⟩
      have hparts := hdescribes.parts
      rw [if_neg hlast] at hparts
      exact ⟨h.parts, hparts, write_eq_ok_iff.2
        ⟨h, hdescribes.tokenIn, hdescribes.tokenOut, rfl, hfits, hbs⟩⟩

/-- **The headers that are written for groups** are the ones that describe them. -/
theorem splitHeaders_eq_ok_iff {written : List Bytes} :
    Strategies.splitHeaders table groups = .ok written ↔
      ∃ headers, DescribeAll table groups headers ∧ (∀ h ∈ headers, h.Fits) ∧
        headers.map bytes = written := by
  induction groups generalizing written with
  | nil =>
    constructor
    · intro h
      cases h
      exact ⟨[], .nil, fun h hh => absurd hh List.not_mem_nil, rfl⟩
    · rintro ⟨headers, hall, -, rfl⟩
      cases hall
      rfl
  | cons g groups ih =>
    have hcons : Strategies.splitHeaders table (g :: groups) = do
        let first ← Strategies.splitHeader table g (g.later ++ groups.flatMap SwapGroup.swaps)
        let others ← Strategies.splitHeaders table groups
        return first :: others := rfl
    rw [hcons, bind_eq_ok_iff]
    constructor
    · rintro ⟨first, hfirst, h⟩
      obtain ⟨others, hothers, h⟩ := bind_eq_ok_iff.1 h
      cases h
      obtain ⟨header, hdescribes, hfits, rfl⟩ := splitHeader_eq_ok_iff.1 hfirst
      obtain ⟨headers, hall, hallFit, rfl⟩ := ih.1 hothers
      exact ⟨header :: headers, .cons hdescribes hall,
        List.forall_mem_cons.2 ⟨hfits, hallFit⟩, rfl⟩
    · rintro ⟨headers, hall, hfits, rfl⟩
      cases hall with
      | cons hdescribes hall =>
        obtain ⟨hfirst, hrest⟩ := List.forall_mem_cons.1 hfits
        exact ⟨_, splitHeader_eq_ok_iff.2 ⟨_, hdescribes, hfirst, rfl⟩,
          bind_eq_ok_iff.2 ⟨_, ih.2 ⟨_, hall, hrest, rfl⟩, rfl⟩⟩

/-- Headers are read back off the hops that they stand in front of. -/
theorem mapM_read?_zipWith {headers : List HopHeader} {hops : List Bytes}
    (hfits : ∀ h ∈ headers, h.Fits) (hlen : hops.length = headers.length) :
    (List.zipWith (· ++ ·) (headers.map bytes) hops).mapM read? = some headers := by
  induction headers generalizing hops with
  | nil =>
    rw [List.map_nil, List.zipWith_nil_left]
    rfl
  | cons header headers ih =>
    cases hops with
    | nil => cases hlen
    | cons hop hops =>
      obtain ⟨hfirst, hrest⟩ := List.forall_mem_cons.1 hfits
      rw [List.map_cons, List.zipWith_cons_cons, List.mapM_cons, hfirst.read?_bytes,
        ih hrest (Nat.succ.inj hlen)]
      rfl

end HopHeader

namespace Strategies

/-- The groups of an order. -/
def groupsOf (t : Strategies) (order : Order) : List SwapGroup :=
  Route.group t.config.capabilities order.swaps

/-- The table of tokens of an order. -/
def tableOf (t : Strategies) (order : Order) : List Address :=
  Route.tokenTable t.config.chain order (t.groupsOf order)

/-- **The headers of the encoded swaps describe the groups.** -/
theorem exists_describeAll_of_encodeSplit {t : Strategies} {order : Order}
    {router : Address} {approvals : Option ApprovalSource} {c : Circumstances} {e : EncodedOrder}
    (h : (t.encodeSplit order router approvals).outcome c = .ok e) :
    ∃ headers, HopHeader.readAll? e.swaps = some headers ∧
      HopHeader.DescribeAll (t.tableOf order) (t.groupsOf order) headers := by
  obtain ⟨-, -, headers, hops, swaps, hheaders, hlen, hswaps, hfinished⟩ := exists_of_encodeSplit h
  obtain ⟨read, hall, hfits, rfl⟩ := HopHeader.splitHeaders_eq_ok_iff.1 hheaders
  refine ⟨read, ?_, hall⟩
  rw [HopHeader.readAll?, hfinished.swaps, Wire.split?_of_join hswaps, Option.bind_eq_bind,
    Option.bind_some, HopHeader.mapM_read?_zipWith hfits (hlen.trans hall.length_eq.symm)]

end Strategies

end SwapRouter
