import SwapRouter.Proofs.Order.Names
import SwapRouter.Proofs.Order.Respelled

/-!
# Records read, written and read again

A record that has been read may be written and read again, as it is when a caller hands an order on.
Reading puts every value into one form: an address into lower case, an amount into a number, a byte
string into bytes, a flag and a number into what their words stand for.  What is written is of this form,
and the readers leave it as it is.  So the record comes back, with one exception: the names of attributes
are written without the halves of surrogate pairs that they may hold.  The record that comes back is the
one with the names that were written; writing it again changes nothing, and it is the record itself
exactly if no name holds a half.

* `Reading.Rereads`: what a reader has read is read again from what is written.
* `Pool.rereads`, `Swap.rereads`, `Order.rereads`, `Solution.rereads`, `Transaction.rereads`: **the
  records.**
* `Schema.RoundTrips`: what becomes of the records that are read from a value.
* `roundTrips_of_read`: **all records that are read from a text**, read, written and spelled anew.
-/

namespace SwapRouter

namespace Reading

variable {α : Type} {read : Json → Reading α} {toJson : α → Json} {written : α → α} {name : String}
  {fields fields' : List (String × Json)} {a absent : α}

/-! ## Values that are read again -/

/-- **What has been read is read again** from what is written of it, as `written` of it. -/
def Rereads (read : Json → Reading α) (toJson : α → Json) (written : α → α) : Prop :=
  ∀ ⦃j : Json⦄ ⦃a : α⦄, read j = ok a → read (toJson a) = ok (written a)

theorem rereads_text : Rereads text .str id := fun _ _ _ => rfl

theorem rereads_flag : Rereads flag .bool id := fun _ _ _ => rfl

theorem rereads_number : Rereads number .float id := fun _ _ _ => rfl

theorem rereads_nativeAction : Rereads NativeAction.read (fun action => .str action.name) id := by
  intro j action _
  cases action <;> rfl

/-- An address that has been read is in its normal form. -/
theorem rereads_address : Rereads address Address.toJson id := by
  intro j a h
  cases j with
  | str s => exact ofValue_eq_ok_iff.2 (Address.checked_of_checked (ofValue_eq_ok_iff.1 h))
  | _ => cases h

theorem rereads_amount : Rereads amount Uint256.toJson id := by
  intro j n _
  rw [Uint256.toJson, amount_int, Uint256.ofInt_toNat]
  rfl

theorem rereads_bytes : Rereads bytes Bytes.toJson id :=
  fun _ bs _ => bytes_str_eq_ok_iff.2 (Bytes.ofHex?_toHex bs)

theorem Rereads.list (h : Rereads read toJson written) :
    Rereads (list read) (Json.ofList toJson) (List.map written) := by
  intro j xs hread
  rw [list_eq_ok_iff] at hread
  obtain ⟨items, -, hitems⟩ := hread
  refine list_eq_ok_iff.2 ⟨_, rfl, ?_⟩
  induction hitems with
  | nil => exact .nil
  | cons hitem _ ih => exact .cons (h hitem) ih

theorem rereads_addresses : Rereads (Reading.list address) (Json.ofList Address.toJson) id := by
  simpa only [List.map_id_fun] using rereads_address.list

/-- A table is read again, whatever its names are. -/
theorem table_ofTable (entries : List (String × Bytes)) :
    table bytes (Json.ofTable Bytes.toJson entries) = ok entries := by
  refine table_eq_ok_iff.2 ⟨_, rfl, ?_⟩
  rw [List.forall₂_map_left_iff, List.forall₂_same]
  exact fun entry _ => ⟨rfl, bytes_str_eq_ok_iff.2 (Bytes.ofHex?_toHex entry.2)⟩

theorem Rereads.nullable (h : Rereads read toJson id) (hnull : ∀ a, toJson a ≠ .null) :
    Rereads (nullable read) (Json.ofOption toJson) id := by
  intro j o hread
  cases o with
  | none => rfl
  | some a =>
    rcases nullable_eq_ok_iff.1 hread with ⟨-, hnone⟩ | ⟨-, b, hb, hsome⟩
    · exact absurd hnone (Option.some_ne_none a)
    · obtain rfl := Option.some.inj hsome
      exact nullable_eq_ok_iff.2 (Or.inr ⟨hnull _, b, h hb, rfl⟩)

/-! ## Fields that are read again -/

theorem Rereads.required (h : Rereads read toJson written)
    (hwritten : fields'.lookup name = some (toJson a)) (hread : required name read fields = ok a) :
    required name read fields' = ok (written a) := by
  obtain ⟨j, -, hj⟩ := required_eq_ok_iff.1 hread
  exact required_eq_ok_iff.2 ⟨_, hwritten, h hj⟩

theorem Rereads.withDefault (h : Rereads read toJson written)
    (habsent : read (toJson absent) = ok (written absent))
    (hwritten : fields'.lookup name = some (toJson a))
    (hread : withDefault name absent read fields = ok a) :
    withDefault name absent read fields' = ok (written a) := by
  refine withDefault_eq_ok_iff.2 (Or.inr ⟨_, hwritten, ?_⟩)
  rcases withDefault_eq_ok_iff.1 hread with ⟨-, rfl⟩ | ⟨j, -, hj⟩
  · exact habsent
  · exact h hj

end Reading

open Reading

/-! ## Records that are read again -/

/-- A swap with the attributes of its pool as they are written. -/
def Swap.written (s : Swap) : Swap := { s with pool := s.pool.written }

/-- An order with the attributes of its pools as they are written. -/
def Order.written (x : Order) : Order := { x with swaps := x.swaps.map Swap.written }

/-- A solution with the attributes of its pools as they are written. -/
def Solution.written (x : Solution) : Solution := { x with orders := x.orders.map Order.written }

theorem Pool.rereads : Rereads Pool.read Pool.toJson Pool.written := by
  intro j p hread
  obtain ⟨fields, -, h⟩ := Pool.read_eq_ok_iff.1 hread
  exact Pool.read_eq_ok_iff.2 ⟨_, rfl, {
    id := rereads_text.required rfl h.id
    protocol := rereads_text.required rfl h.protocol
    tokens := rereads_addresses.withDefault rfl rfl h.tokens
    attributes := withDefault_eq_ok_iff.2 (Or.inr ⟨_, rfl, table_ofTable p.writtenAttributes⟩) }⟩

theorem Swap.rereads : Rereads Swap.read Swap.toJson Swap.written := by
  intro j s hread
  obtain ⟨fields, -, h⟩ := Swap.read_eq_ok_iff.1 hread
  exact Swap.read_eq_ok_iff.2 ⟨_, rfl, {
    pool := Pool.rereads.required rfl h.pool
    tokenIn := rereads_address.required rfl h.tokenIn
    tokenOut := rereads_address.required rfl h.tokenOut
    split := rereads_number.withDefault rfl rfl h.split
    userData := (rereads_bytes.nullable fun _ => Json.noConfusion).withDefault rfl rfl h.userData
    estimatedAmountIn := (rereads_amount.nullable fun _ => Json.noConfusion).withDefault rfl rfl
      h.estimatedAmountIn }⟩

theorem Order.rereads : Rereads Order.read Order.toJson Order.written := by
  intro j x hread
  obtain ⟨fields, -, h⟩ := Order.read_eq_ok_iff.1 hread
  exact Order.read_eq_ok_iff.2 ⟨_, rfl, {
    exactOut := rereads_flag.withDefault rfl rfl h.exactOut
    givenToken := rereads_address.required rfl h.givenToken
    givenAmount := rereads_amount.required rfl h.givenAmount
    checkedToken := rereads_address.required rfl h.checkedToken
    checkAmount := rereads_amount.required rfl h.checkAmount
    sender := rereads_address.required rfl h.sender
    receiver := rereads_address.required rfl h.receiver
    swaps := Swap.rereads.list.withDefault rfl rfl h.swaps
    withCall := rereads_flag.withDefault rfl rfl h.withCall
    router := (rereads_address.nullable fun _ => Json.noConfusion).withDefault rfl rfl h.router
    slippage := (rereads_number.nullable fun _ => Json.noConfusion).withDefault rfl rfl h.slippage
    nativeAction := (rereads_nativeAction.nullable fun _ => Json.noConfusion).withDefault rfl rfl
      h.nativeAction }⟩

theorem Solution.rereads : Rereads Solution.read Solution.toJson Solution.written := by
  intro j x hread
  obtain ⟨fields, -, h⟩ := Solution.read_eq_ok_iff.1 hread
  exact Solution.read_eq_ok_iff.2 ⟨_, rfl, Order.rereads.list.withDefault rfl rfl h⟩

theorem Transaction.rereads : Rereads Transaction.read Transaction.toJson id := by
  intro j t hread
  obtain ⟨fields, -, h⟩ := Transaction.read_eq_ok_iff.1 hread
  exact Transaction.read_eq_ok_iff.2 ⟨_, rfl, {
    target := rereads_address.required rfl h.target
    value := rereads_amount.withDefault rfl rfl h.value
    data := rereads_bytes.required rfl h.data }⟩

/-! ## Names that come back -/

/-- No name of an attribute of its pool holds a half of a surrogate pair. -/
def Swap.HasPlainNames (s : Swap) : Prop := s.pool.HasPlainNames

/-- No name of an attribute of its pools holds a half of a surrogate pair. -/
def Order.HasPlainNames (x : Order) : Prop := ∀ s ∈ x.swaps, s.HasPlainNames

/-- No name of an attribute of its pools holds a half of a surrogate pair. -/
def Solution.HasPlainNames (x : Solution) : Prop := ∀ order ∈ x.orders, order.HasPlainNames

namespace Reading

variable {α : Type} {read : Json → Reading α} {P : α → Prop} {name : String}
  {fields : List (String × Json)} {a absent : α}

/-- What is read from a value without a name twice in an object has a property. -/
def Gives (read : Json → Reading α) (P : α → Prop) : Prop :=
  ∀ ⦃j : Json⦄ ⦃a : α⦄, j.HasDistinctNames → read j = ok a → P a

theorem Gives.list (h : Gives read P) : Gives (list read) fun xs => ∀ x ∈ xs, P x := by
  intro j xs hj hread
  obtain ⟨items, rfl, hitems⟩ := list_eq_ok_iff.1 hread
  cases hj with
  | arr hnames =>
    clear hread
    induction hitems with
    | nil => exact fun x hx => absurd hx List.not_mem_nil
    | cons hitem _ ih =>
      obtain ⟨hname, hnames⟩ := List.forall_mem_cons.1 hnames
      exact List.forall_mem_cons.2 ⟨h hname hitem, ih hnames⟩

theorem Gives.required (h : Gives read P) (hfields : (Json.obj fields).HasDistinctNames)
    (hread : required name read fields = ok a) : P a := by
  obtain ⟨j, hj, hread⟩ := required_eq_ok_iff.1 hread
  exact h (hfields.of_lookup hj) hread

theorem Gives.withDefault (h : Gives read P) (habsent : P absent)
    (hfields : (Json.obj fields).HasDistinctNames) (hread : withDefault name absent read fields = ok a) :
    P a := by
  rcases withDefault_eq_ok_iff.1 hread with ⟨-, rfl⟩ | ⟨j, hj, hread⟩
  · exact habsent
  · exact h (hfields.of_lookup hj) hread

/-- The names of a table are those of the object it is read from. -/
theorem gives_table {α : Type} (read : Json → Reading α) :
    Gives (table read) fun entries => (Json.names entries).Nodup := by
  intro j entries hj hread
  obtain ⟨fields, rfl, hfields⟩ := table_eq_ok_iff.1 hread
  have hnames : Json.names fields = Json.names entries := by
    clear hread hj
    induction hfields with
    | nil => rfl
    | cons hfield _ ih => exact congrArg₂ List.cons hfield.1 ih
  cases hj with
  | obj hdiffer _ => rwa [← hnames]

end Reading

theorem map_eq_self_iff {α : Type} {f : α → α} {xs : List α} : xs.map f = xs ↔ ∀ x ∈ xs, f x = x := by
  conv_lhs => rhs; rw [← List.map_id xs]
  exact List.map_inj_left

/-- The attributes of a pool come back under their names exactly if none of these holds a half. -/
theorem Pool.gives_written : Gives Pool.read fun p => p.written = p ↔ p.HasPlainNames := by
  intro j p hj hread
  obtain ⟨fields, rfl, h⟩ := Pool.read_eq_ok_iff.1 hread
  have hempty : (Json.names ([] : List (String × Bytes))).Nodup := List.nodup_nil
  exact written_eq_self_iff ((gives_table bytes).withDefault hempty hj h.attributes)

theorem Swap.gives_written : Gives Swap.read fun s => s.written = s ↔ s.HasPlainNames := by
  intro j s hj hread
  obtain ⟨fields, rfl, h⟩ := Swap.read_eq_ok_iff.1 hread
  rw [Swap.HasPlainNames, ← Pool.gives_written.required hj h.pool]
  cases s
  simp [Swap.written]

theorem Order.gives_written : Gives Order.read fun x => x.written = x ↔ x.HasPlainNames := by
  intro j x hj hread
  obtain ⟨fields, rfl, h⟩ := Order.read_eq_ok_iff.1 hread
  have hswaps : ∀ s ∈ x.swaps, (s.written = s ↔ s.HasPlainNames) :=
    Swap.gives_written.list.withDefault (fun s hs => absurd hs List.not_mem_nil) hj h.swaps
  calc x.written = x ↔ x.swaps.map Swap.written = x.swaps := by cases x; simp [Order.written]
    _ ↔ ∀ s ∈ x.swaps, s.written = s := map_eq_self_iff
    _ ↔ x.HasPlainNames := forall₂_congr hswaps

theorem Solution.gives_written : Gives Solution.read fun x => x.written = x ↔ x.HasPlainNames := by
  intro j x hj hread
  obtain ⟨fields, rfl, h⟩ := Solution.read_eq_ok_iff.1 hread
  have horders : ∀ order ∈ x.orders, (order.written = order ↔ order.HasPlainNames) :=
    Order.gives_written.list.withDefault (fun order horder => absurd horder List.not_mem_nil) hj h
  calc x.written = x ↔ x.orders.map Order.written = x.orders := by cases x; simp [Solution.written]
    _ ↔ ∀ order ∈ x.orders, order.written = order := map_eq_self_iff
    _ ↔ x.HasPlainNames := forall₂_congr horders

/-! ## What is written again -/

theorem Pool.toJson_written (p : Pool) : p.written.toJson = p.toJson := by
  have hattributes : p.written.writtenAttributes = p.writtenAttributes :=
    congrArg Pool.attributes p.written_written
  rw [toJson, hattributes]
  rfl

theorem Swap.toJson_written (s : Swap) : s.written.toJson = s.toJson := by
  rw [toJson, written, Pool.toJson_written]
  rfl

theorem Order.toJson_written (x : Order) : x.written.toJson = x.toJson := by
  have hswaps : Json.ofList Swap.toJson (x.swaps.map Swap.written) = Json.ofList Swap.toJson x.swaps := by
    rw [Json.ofList, Json.ofList, List.map_map]
    exact congrArg Json.arr (List.map_congr_left fun s _ => s.toJson_written)
  rw [toJson, written, hswaps]
  rfl

theorem Solution.toJson_written (x : Solution) : x.written.toJson = x.toJson := by
  have horders : Json.ofList Order.toJson (x.orders.map Order.written) =
      Json.ofList Order.toJson x.orders := by
    rw [Json.ofList, Json.ofList, List.map_map]
    exact congrArg Json.arr (List.map_congr_left fun order _ => order.toJson_written)
  rw [toJson, written, horders]
  rfl

/-! ## All records -/

/-- A kind of record: how it is read and written, what comes back of it, and how it may be spelled. -/
structure Schema (α : Type) where
  read : Json → Reading α
  toJson : α → Json
  /-- The record with the names that are written. -/
  written : α → α
  /-- No name of an attribute holds a half of a surrogate pair. -/
  HasPlainNames : α → Prop
  Respelled : Json → Json → Prop

def Pool.schema : Schema Pool := ⟨read, toJson, written, HasPlainNames, Respelled⟩

def Swap.schema : Schema Swap := ⟨read, toJson, written, HasPlainNames, Respelled⟩

def Order.schema : Schema Order := ⟨read, toJson, written, HasPlainNames, Respelled⟩

def Solution.schema : Schema Solution := ⟨read, toJson, written, HasPlainNames, Respelled⟩

/-- A transaction has no pools, hence no names but its own. -/
def Transaction.schema : Schema Transaction := ⟨read, toJson, id, fun _ => True, Respelled⟩

namespace Schema

variable {α : Type} {S : Schema α} {j : Json}

/-- **What becomes of the record that a value is read as.**  What is written of it is read, as the record
with the names that are written, and this is the record itself exactly if no name holds a half; writing
it again changes nothing; and a value spelled anew is read as the same record. -/
structure RoundTrips (S : Schema α) (j : Json) : Prop where
  rereads : ∀ {x}, S.read j = .ok x → S.read (S.toJson x) = .ok (S.written x)
  returns_iff : ∀ {x}, S.read j = .ok x → (S.read (S.toJson x) = .ok x ↔ S.HasPlainNames x)
  stable : ∀ {x}, S.read j = .ok x → S.toJson (S.written x) = S.toJson x
  respelled : ∀ {j' x}, S.Respelled j j' → S.read j = .ok x → S.read j' = .ok x

theorem roundTrips (hj : j.HasDistinctNames) (hrereads : Rereads S.read S.toJson S.written)
    (hwritten : Gives S.read fun x => S.written x = x ↔ S.HasPlainNames x)
    (hstable : ∀ x, S.toJson (S.written x) = S.toJson x) (hrespelled : Overlooks S.read S.Respelled) :
    S.RoundTrips j where
  rereads h := hrereads h
  returns_iff h := by
    rw [hrereads h, Reading.ok.injEq]
    exact hwritten hj h
  stable _ := hstable _
  respelled hr h := hrespelled hr h

end Schema

/-- **All records that are read from a text** come back when they are written and read again, and do not
depend on the spelling of their amounts, addresses and byte strings. -/
theorem roundTrips_of_read {s : String} {j : Json} (h : Json.read s = .ok j) :
    Pool.schema.RoundTrips j ∧ Swap.schema.RoundTrips j ∧ Order.schema.RoundTrips j ∧
      Solution.schema.RoundTrips j ∧ Transaction.schema.RoundTrips j := by
  have hj := Json.hasDistinctNames_of_read h
  exact ⟨Schema.roundTrips hj Pool.rereads Pool.gives_written Pool.toJson_written Pool.overlooks_read,
    Schema.roundTrips hj Swap.rereads Swap.gives_written Swap.toJson_written Swap.overlooks_read,
    Schema.roundTrips hj Order.rereads Order.gives_written Order.toJson_written Order.overlooks_read,
    Schema.roundTrips hj Solution.rereads Solution.gives_written Solution.toJson_written
      Solution.overlooks_read,
    Schema.roundTrips hj Transaction.rereads (fun _ _ _ _ => iff_of_true rfl trivial) (fun _ => rfl)
      Transaction.overlooks_read⟩

namespace Sample

/-- Whether a text is read as a pool. -/
def isTextOf (s : String) (p : Pool) : Bool :=
  match Json.read s with
  | .ok j => match Pool.read j with
    | .ok found => found = p
    | .refused _ => false
  | .error _ => false

theorem exists_of_isTextOf {s : String} {p : Pool} (h : isTextOf s p = true) :
    ∃ j, Json.read s = .ok j ∧ Pool.read j = .ok p := by
  unfold isTextOf at h
  split at h
  next j hj =>
    split at h
    next found hfound =>
      obtain rfl := of_decide_eq_true h
      exact ⟨j, hj, hfound⟩
    next => cases h
  next => cases h

/-- The text of a pool, with capitals in an address and in the bytes of an attribute. -/
def poolText : String :=
  "\x7b\"id\":\"p\",\"protocol_system\":\"q\"," ++
  "\"tokens\":[\"0X6B175474E89094c44da98b954eedeac495271d0f\"]," ++
  "\"static_attributes\":\x7b\"fee\":\"0X0bB8\"\x7d\x7d"

/-- The pool that is read from `poolText`. -/
def readPool : Pool where
  id := "p"
  protocol := "q"
  tokens := [⟨"0x6b175474e89094c44da98b954eedeac495271d0f"⟩]
  attributes := [("fee", [0x0b, 0xb8])]

theorem roundTrips_readPool : ∃ j, Json.read poolText = .ok j ∧ Pool.read j = .ok readPool ∧
    Pool.schema.RoundTrips j ∧ Swap.schema.RoundTrips j ∧ Order.schema.RoundTrips j ∧
      Solution.schema.RoundTrips j ∧ Transaction.schema.RoundTrips j := by
  have hread : isTextOf poolText readPool = true := by decide +kernel
  obtain ⟨j, hj, hp⟩ := exists_of_isTextOf hread
  exact ⟨j, hj, hp, roundTrips_of_read hj⟩

/-- A pool whose only attribute has half of a surrogate pair as its name. -/
def halvedPool : Pool where
  id := ""
  protocol := ""
  attributes := [(String.ofList [Text.ofUnit 0xD800], [])]

/-- The text of `halvedPool`. -/
def halvedText : String :=
  "\x7b\"id\":\"\",\"protocol_system\":\"\",\"static_attributes\":\x7b\"\\ud800\":\"\"\x7d\x7d"

/-- Not every pool comes back: there is no UTF-8 for the name of this attribute. -/
theorem not_returns_halvedPool : ¬ ∀ (s : String) (j : Json) (p : Pool), Json.read s = .ok j →
    Pool.read j = .ok p → Pool.read p.toJson = .ok p := by
  intro h
  have hread : isTextOf halvedText halvedPool = true := by decide +kernel
  obtain ⟨j, hj, hp⟩ := exists_of_isTextOf hread
  have hback := h _ _ _ hj hp
  rw [Pool.rereads hp, Reading.ok.injEq] at hback
  exact absurd hback (by decide +kernel)

end Sample

end SwapRouter
