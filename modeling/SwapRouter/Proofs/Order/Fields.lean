import Mathlib.Data.List.Forall2
import SwapRouter.Order.Reader

/-!
# What the readers of records read

The readers collect the faults of all fields, so a record is read exactly if each of its fields is.
Here the readers are inverted: what a list, a table or a record has been read from, one statement for
each combinator and one structure for each record.

* `Reading.each_eq_ok_iff`, `Reading.eachField_eq_ok_iff`: the items of a list and the fields of a table.
* `Pool.read_eq_ok_iff`, `Swap.read_eq_ok_iff`, `Order.read_eq_ok_iff`, `Solution.read_eq_ok_iff`,
  `Transaction.read_eq_ok_iff`: **a record is read exactly if its fields are.**
-/

namespace SwapRouter

namespace Reading

variable {α β : Type} {read : Json → Reading α} {j : Json} {name : String} {a absent : α}
  {fields : List (String × Json)}

/-! ## Values -/

theorem map_eq_ok_iff {f : α → β} {x : Reading α} {b : β} :
    f <$> x = ok b ↔ ∃ a, x = ok a ∧ f a = b := by
  cases x with
  | ok a => simp [Functor.map, map]
  | refused faults => simp [Functor.map, map]

theorem seq_eq_ok_iff {f : Reading (α → β)} {x : Reading α} {b : β} :
    f <*> x = ok b ↔ ∃ g a, f = ok g ∧ x = ok a ∧ g a = b := by
  cases f <;> cases x <;> simp [Seq.seq, apply]

theorem within_eq_ok_iff {x : Reading α} : x.within name = ok a ↔ x = ok a := by
  cases x <;> simp [within]

theorem ofValue_eq_ok_iff {e : Except ValueFault α} : ofValue e = ok a ↔ e = .ok a := by
  cases e <;> simp [ofValue, refuse]

theorem nullable_of_ne_null (h : j ≠ .null) : nullable read j = some <$> read j := by
  cases j with
  | null => exact absurd rfl h
  | _ => rfl

theorem nullable_eq_ok_iff {o : Option α} :
    nullable read j = ok o ↔ j = .null ∧ o = none ∨ j ≠ .null ∧ ∃ a, read j = ok a ∧ some a = o := by
  by_cases h : j = .null
  · subst h
    simp [nullable, eq_comm]
  · rw [nullable_of_ne_null h, map_eq_ok_iff]
    simp [h]

/-- **The items of a list** are read one by one. -/
theorem each_eq_ok_iff {position : ℕ} {items : List Json} {xs : List α} :
    each read position items = ok xs ↔ List.Forall₂ (fun item x => read item = ok x) items xs := by
  induction items generalizing position xs with
  | nil =>
    rw [each, List.forall₂_nil_left_iff, ok.injEq, eq_comm]
  | cons item items ih =>
    rw [List.forall₂_cons_left_iff]
    refine seq_eq_ok_iff.trans ?_
    constructor
    · rintro ⟨g, xs', hitem, hitems, rfl⟩
      obtain ⟨x, hx, rfl⟩ := map_eq_ok_iff.1 hitem
      exact ⟨x, xs', within_eq_ok_iff.1 hx, ih.1 hitems, rfl⟩
    · rintro ⟨x, xs', hx, hxs, rfl⟩
      exact ⟨_, xs', map_eq_ok_iff.2 ⟨x, within_eq_ok_iff.2 hx, rfl⟩, ih.2 hxs, rfl⟩

/-- **The fields of a table** are read one by one and keep their names. -/
theorem eachField_eq_ok_iff {entries : List (String × α)} :
    eachField read fields = ok entries ↔
      List.Forall₂ (fun field entry => field.1 = entry.1 ∧ read field.2 = ok entry.2) fields entries := by
  induction fields generalizing entries with
  | nil =>
    rw [eachField, List.forall₂_nil_left_iff, ok.injEq, eq_comm]
  | cons field fields ih =>
    obtain ⟨name, item⟩ := field
    rw [List.forall₂_cons_left_iff]
    refine seq_eq_ok_iff.trans ?_
    constructor
    · rintro ⟨g, entries', hitem, hfields, rfl⟩
      obtain ⟨x, hx, rfl⟩ := map_eq_ok_iff.1 hitem
      exact ⟨(name, x), entries', ⟨rfl, within_eq_ok_iff.1 hx⟩, ih.1 hfields, rfl⟩
    · rintro ⟨⟨name', x⟩, entries', ⟨rfl, hx⟩, hentries, rfl⟩
      exact ⟨_, entries', map_eq_ok_iff.2 ⟨x, within_eq_ok_iff.2 hx, rfl⟩, ih.2 hentries, rfl⟩

theorem list_eq_ok_iff {xs : List α} :
    list read j = ok xs ↔
      ∃ items, j = .arr items ∧ List.Forall₂ (fun item x => read item = ok x) items xs := by
  cases j with
  | arr items => simpa [list] using each_eq_ok_iff
  | _ => simp [list, refuse]

theorem table_eq_ok_iff {entries : List (String × α)} :
    table read j = ok entries ↔ ∃ fields, j = .obj fields ∧
      List.Forall₂ (fun field entry => field.1 = entry.1 ∧ read field.2 = ok entry.2)
        fields entries := by
  cases j with
  | obj fields => simpa [table] using eachField_eq_ok_iff
  | _ => simp [table, refuse]

/-! ## Fields -/

theorem record_eq_ok_iff {read : List (String × Json) → Reading α} :
    record read j = ok a ↔ ∃ fields, j = .obj fields ∧ read fields = ok a := by
  cases j <;> simp [record, refuse]

theorem required_eq_ok_iff :
    required name read fields = ok a ↔ ∃ j, fields.lookup name = some j ∧ read j = ok a := by
  rw [required]
  split
  next j h => simp [h, within_eq_ok_iff]
  next h => simp [h]

theorem withDefault_eq_ok_iff :
    withDefault name absent read fields = ok a ↔ fields.lookup name = none ∧ a = absent ∨
      ∃ j, fields.lookup name = some j ∧ read j = ok a := by
  rw [withDefault]
  split
  next j h => simp [h, within_eq_ok_iff]
  next h => simp [h, eq_comm]

end Reading

open Reading

variable {j : Json}

/-! ## Records -/

namespace Pool

/-- The fields that a pool is read from. -/
structure IsReadFrom (fields : List (String × Json)) (p : Pool) : Prop where
  id : required "id" text fields = ok p.id
  protocol : required "protocol_system" text fields = ok p.protocol
  tokens : withDefault "tokens" [] (list address) fields = ok p.tokens
  attributes : withDefault "static_attributes" [] (table bytes) fields = ok p.attributes

theorem read_eq_ok_iff {p : Pool} :
    Pool.read j = ok p ↔ ∃ fields, j = .obj fields ∧ p.IsReadFrom fields := by
  refine record_eq_ok_iff.trans (exists_congr fun fields => and_congr_right fun _ => ?_)
  constructor
  · intro h
    -- a layer for each field, the last field outermost
    simp only [seq_eq_ok_iff, map_eq_ok_iff] at h
    obtain ⟨_, _, ⟨_, _, ⟨_, _, ⟨_, hid, rfl⟩, hprotocol, rfl⟩, htokens, rfl⟩, hattributes, rfl⟩ := h
    exact ⟨hid, hprotocol, htokens, hattributes⟩
  · rintro ⟨hid, hprotocol, htokens, hattributes⟩
    rw [hid, hprotocol, htokens, hattributes]
    rfl

end Pool

namespace Swap

/-- The fields that a swap is read from. -/
structure IsReadFrom (fields : List (String × Json)) (s : Swap) : Prop where
  pool : required "component" Pool.read fields = ok s.pool
  tokenIn : required "token_in" address fields = ok s.tokenIn
  tokenOut : required "token_out" address fields = ok s.tokenOut
  split : withDefault "split" (.zero false) number fields = ok s.split
  userData : withDefault "user_data" none (nullable bytes) fields = ok s.userData
  estimatedAmountIn :
    withDefault "estimated_amount_in" none (nullable amount) fields = ok s.estimatedAmountIn

theorem read_eq_ok_iff {s : Swap} :
    Swap.read j = ok s ↔ ∃ fields, j = .obj fields ∧ s.IsReadFrom fields := by
  refine record_eq_ok_iff.trans (exists_congr fun fields => and_congr_right fun _ => ?_)
  constructor
  · intro h
    simp only [seq_eq_ok_iff, map_eq_ok_iff] at h
    obtain ⟨_, _, ⟨_, _, ⟨_, _, ⟨_, _, ⟨_, _, ⟨_, hpool, rfl⟩, hin, rfl⟩, hout, rfl⟩, hsplit, rfl⟩, hdata,
      rfl⟩, hestimate, rfl⟩ := h
    exact ⟨hpool, hin, hout, hsplit, hdata, hestimate⟩
  · rintro ⟨hpool, hin, hout, hsplit, hdata, hestimate⟩
    rw [hpool, hin, hout, hsplit, hdata, hestimate]
    rfl

end Swap

namespace Order

/-- The fields that an order is read from. -/
structure IsReadFrom (fields : List (String × Json)) (x : Order) : Prop where
  exactOut : withDefault "exact_out" false flag fields = ok x.exactOut
  givenToken : required "given_token" address fields = ok x.givenToken
  givenAmount : required "given_amount" amount fields = ok x.givenAmount
  checkedToken : required "checked_token" address fields = ok x.checkedToken
  checkAmount : required "check_amount" amount fields = ok x.checkAmount
  sender : required "sender" address fields = ok x.sender
  receiver : required "receiver" address fields = ok x.receiver
  swaps : withDefault "swaps" [] (list Swap.read) fields = ok x.swaps
  withCall : withDefault "add_router_calldata" true flag fields = ok x.withCall
  router : withDefault "router_address" none (nullable address) fields = ok x.router
  slippage : withDefault "slippage" none (nullable number) fields = ok x.slippage
  nativeAction : withDefault "native_action" none (nullable NativeAction.read) fields = ok x.nativeAction

theorem read_eq_ok_iff {x : Order} :
    Order.read j = ok x ↔ ∃ fields, j = .obj fields ∧ x.IsReadFrom fields := by
  refine record_eq_ok_iff.trans (exists_congr fun fields => and_congr_right fun _ => ?_)
  constructor
  · intro h
    simp only [seq_eq_ok_iff, map_eq_ok_iff] at h
    obtain ⟨_, _, ⟨_, _, ⟨_, _, ⟨_, _, ⟨_, _, ⟨_, _, ⟨_, _, ⟨_, _, ⟨_, _, ⟨_, _, ⟨_, _, ⟨_, hout, rfl⟩,
      hgiven, rfl⟩, hamount, rfl⟩, hchecked, rfl⟩, hleast, rfl⟩, hsender, rfl⟩, hreceiver, rfl⟩, hswaps,
      rfl⟩, hcall, rfl⟩, hrouter, rfl⟩, hslippage, rfl⟩, haction, rfl⟩ := h
    exact ⟨hout, hgiven, hamount, hchecked, hleast, hsender, hreceiver, hswaps, hcall, hrouter, hslippage,
      haction⟩
  · rintro ⟨hout, hgiven, hamount, hchecked, hleast, hsender, hreceiver, hswaps, hcall, hrouter, hslippage,
      haction⟩
    rw [hout, hgiven, hamount, hchecked, hleast, hsender, hreceiver, hswaps, hcall, hrouter, hslippage,
      haction]
    rfl

end Order

theorem Solution.read_eq_ok_iff {x : Solution} :
    Solution.read j = ok x ↔ ∃ fields, j = .obj fields ∧
      withDefault "orders" [] (list Order.read) fields = ok x.orders := by
  refine record_eq_ok_iff.trans (exists_congr fun fields => and_congr_right fun _ => ?_)
  refine map_eq_ok_iff.trans ⟨?_, fun h => ⟨x.orders, h, rfl⟩⟩
  rintro ⟨orders, h, rfl⟩
  exact h

namespace Transaction

/-- The fields that a transaction is read from. -/
structure IsReadFrom (fields : List (String × Json)) (t : Transaction) : Prop where
  target : required "to" address fields = ok t.target
  value : withDefault "value" .zero amount fields = ok t.value
  data : required "data" bytes fields = ok t.data

theorem read_eq_ok_iff {t : Transaction} :
    Transaction.read j = ok t ↔ ∃ fields, j = .obj fields ∧ t.IsReadFrom fields := by
  refine record_eq_ok_iff.trans (exists_congr fun fields => and_congr_right fun _ => ?_)
  constructor
  · intro h
    simp only [seq_eq_ok_iff, map_eq_ok_iff] at h
    obtain ⟨_, _, ⟨_, _, ⟨_, htarget, rfl⟩, hvalue, rfl⟩, hdata, rfl⟩ := h
    exact ⟨htarget, hvalue, hdata⟩
  · rintro ⟨htarget, hvalue, hdata⟩
    rw [htarget, hvalue, hdata]
    rfl

end Transaction

end SwapRouter
