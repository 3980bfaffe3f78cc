import SwapRouter.Proofs.Order.Fields
import SwapRouter.Proofs.Order.Spelling

/-!
# Records spelled anew

A record is spelled anew when some of its amounts are written as decimal texts and the letters of its
addresses and byte strings change their case.  Which value stands where is fixed by the record, so there
is one relation for each record, put together from those for amounts and for digits.  All other values,
and all names, stay as they are: the case of an id or of a name counts.

A reader *overlooks* a relation if it reads from the second value what it reads from the first.  The
readers of amounts, addresses and byte strings overlook the spelling of their values, and lists, tables
and records hand that on.

* `Reading.Overlooks`: a reader does not see a relation.
* `Pool.overlooks_read`, `Swap.overlooks_read`, `Order.overlooks_read`, `Solution.overlooks_read`,
  `Transaction.overlooks_read`: **a record spelled anew is read as the same record.**
-/

namespace SwapRouter

namespace Json

/-! ## Relations -/

/-- A number may be written as its decimal text. -/
inductive RespelledAmount : Json → Json → Prop
  | refl (j : Json) : RespelledAmount j j
  | decimal (n : ℤ) : RespelledAmount (.int n) (.str (toString n))

/-- The letters of a text may change their case. -/
inductive RespelledDigits : Json → Json → Prop
  | refl (j : Json) : RespelledDigits j j
  | letters {s s' : String} (h : Text.SameButCase s s') : RespelledDigits (.str s) (.str s')

/-- The items of a list may be spelled anew. -/
inductive RespelledList (r : Json → Json → Prop) : Json → Json → Prop
  | refl (j : Json) : RespelledList r j j
  | items {items items' : List Json} (h : List.Forall₂ r items items') :
    RespelledList r (.arr items) (.arr items')

/-- The fields of an object may be spelled anew, each as its name asks for. -/
inductive RespelledFields (r : String → Json → Json → Prop) : Json → Json → Prop
  | refl (j : Json) : RespelledFields r j j
  | fields {fields fields' : List (String × Json)}
    (h : List.Forall₂ (fun field field' => field.1 = field'.1 ∧ r field.1 field.2 field'.2)
      fields fields') : RespelledFields r (.obj fields) (.obj fields')

/-! Null is spelled in one way only. -/

variable {j j' : Json}

theorem RespelledAmount.null_iff (h : RespelledAmount j j') : j = .null ↔ j' = .null := by
  cases h <;> simp

theorem RespelledDigits.null_iff (h : RespelledDigits j j') : j = .null ↔ j' = .null := by
  cases h <;> simp

end Json

open Json

/-- How a field of a pool may be spelled. -/
def Pool.respelledField : String → Json → Json → Prop
  | "tokens" => RespelledList RespelledDigits
  | "static_attributes" => RespelledFields fun _ => RespelledDigits
  | _ => Eq

/-- A pool spelled anew. -/
def Pool.Respelled : Json → Json → Prop := RespelledFields respelledField

/-- How a field of a swap may be spelled. -/
def Swap.respelledField : String → Json → Json → Prop
  | "component" => Pool.Respelled
  | "token_in" | "token_out" | "user_data" => RespelledDigits
  | "estimated_amount_in" => RespelledAmount
  | _ => Eq

/-- A swap spelled anew. -/
def Swap.Respelled : Json → Json → Prop := RespelledFields respelledField

/-- How a field of an order may be spelled. -/
def Order.respelledField : String → Json → Json → Prop
  | "given_token" | "checked_token" | "sender" | "receiver" | "router_address" => RespelledDigits
  | "given_amount" | "check_amount" => RespelledAmount
  | "swaps" => RespelledList Swap.Respelled
  | _ => Eq

/-- An order spelled anew. -/
def Order.Respelled : Json → Json → Prop := RespelledFields respelledField

/-- How a field of a solution may be spelled. -/
def Solution.respelledField : String → Json → Json → Prop
  | "orders" => RespelledList Order.Respelled
  | _ => Eq

/-- A solution spelled anew. -/
def Solution.Respelled : Json → Json → Prop := RespelledFields respelledField

/-- How a field of a transaction may be spelled. -/
def Transaction.respelledField : String → Json → Json → Prop
  | "to" | "data" => RespelledDigits
  | "value" => RespelledAmount
  | _ => Eq

/-- A transaction spelled anew. -/
def Transaction.Respelled : Json → Json → Prop := RespelledFields respelledField

namespace Reading

variable {α : Type} {read : Json → Reading α} {r : Json → Json → Prop}

/-! ## Readers that do not see the spelling -/

/-- **A reader overlooks a relation** if it reads the same from two related values. -/
def Overlooks (read : Json → Reading α) (r : Json → Json → Prop) : Prop :=
  ∀ ⦃j j' : Json⦄ ⦃a : α⦄, r j j' → read j = ok a → read j' = ok a

theorem overlooks_eq (read : Json → Reading α) : Overlooks read Eq := by
  rintro j j' a rfl h
  exact h

theorem amount_int (n : ℤ) : amount (.int n) = ofValue (Uint256.ofInt n) := rfl

theorem amount_str (s : String) : amount (.str s) = ofValue (Uint256.ofText s) := rfl

theorem overlooks_amount : Overlooks amount RespelledAmount := by
  intro j j' a hr h
  cases hr with
  | refl => exact h
  | decimal n =>
    rw [amount_int, ofValue_eq_ok_iff] at h
    rw [amount_str, ofValue_eq_ok_iff]
    exact Uint256.ofText_toString h

theorem overlooks_address : Overlooks address RespelledDigits := by
  intro j j' a hr h
  cases hr with
  | refl => exact h
  | letters hletters =>
    have hchecked := ofValue_eq_ok_iff.1 h
    refine ofValue_eq_ok_iff.2 ?_
    rw [← hchecked]
    exact Address.checked_congr hletters (Address.checked_eq_ok_iff.1 hchecked).1

theorem bytes_str_eq_ok_iff {s : String} {bs : Bytes} :
    bytes (.str s) = ok bs ↔ Bytes.ofHex? s = some bs := by
  rw [bytes, ofValue_eq_ok_iff, Bytes.ofJson]
  split
  next h => simp [h]
  next h => simp [h]

theorem overlooks_bytes : Overlooks bytes RespelledDigits := by
  intro j j' bs hr h
  cases hr with
  | refl => exact h
  | letters hletters =>
    rw [bytes_str_eq_ok_iff] at h ⊢
    rw [Bytes.ofHex?_congr hletters, h]

theorem Overlooks.list (h : Overlooks read r) : Overlooks (list read) (RespelledList r) := by
  intro j j' xs hr hread
  cases hr with
  | refl => exact hread
  | @items items items' hitems =>
    rw [list_eq_ok_iff] at hread
    obtain ⟨_, ⟨⟩, hread⟩ := hread
    refine list_eq_ok_iff.2 ⟨items', rfl, ?_⟩
    induction hitems generalizing xs with
    | nil => exact hread
    | cons hitem _ ih =>
      obtain ⟨x, xs, hx, hxs, rfl⟩ := List.forall₂_cons_left_iff.1 hread
      exact .cons (h hitem hx) (ih hxs)

theorem Overlooks.table (h : Overlooks read r) :
    Overlooks (table read) (RespelledFields fun _ => r) := by
  intro j j' entries hr hread
  cases hr with
  | refl => exact hread
  | @fields fields fields' hfields =>
    rw [table_eq_ok_iff] at hread
    obtain ⟨_, ⟨⟩, hread⟩ := hread
    refine table_eq_ok_iff.2 ⟨fields', rfl, ?_⟩
    induction hfields generalizing entries with
    | nil => exact hread
    | cons hfield _ ih =>
      obtain ⟨entry, entries, ⟨hname, hx⟩, hentries, rfl⟩ := List.forall₂_cons_left_iff.1 hread
      exact .cons ⟨hfield.1.symm.trans hname, h hfield.2 hx⟩ (ih hentries)

/-- A value that may be null is overlooked if null is spelled in one way only. -/
theorem Overlooks.nullable (h : Overlooks read r)
    (hnull : ∀ {j j'}, r j j' → (j = .null ↔ j' = .null)) : Overlooks (nullable read) r := by
  intro j j' o hr hread
  rw [nullable_eq_ok_iff] at hread ⊢
  rcases hread with ⟨hj, ho⟩ | ⟨hj, a, ha, ho⟩
  · exact Or.inl ⟨(hnull hr).1 hj, ho⟩
  · exact Or.inr ⟨fun hj' => hj ((hnull hr).2 hj'), a, h hr ha, ho⟩

/-! ## Fields -/

variable {r : String → Json → Json → Prop} {fields fields' : List (String × Json)} {name : String}
  {a absent : α}

/-- The fields of two objects, one spelled anew. -/
abbrev SameFields (r : String → Json → Json → Prop) (fields fields' : List (String × Json)) : Prop :=
  List.Forall₂ (fun field field' => field.1 = field'.1 ∧ r field.1 field.2 field'.2) fields fields'

theorem rel_lookup (h : SameFields r fields fields') (name : String) :
    Option.Rel (r name) (fields.lookup name) (fields'.lookup name) := by
  induction h with
  | nil => exact .none
  | @cons field field' _ _ hfield _ ih =>
    obtain ⟨name₁, j⟩ := field
    obtain ⟨name₂, j'⟩ := field'
    obtain ⟨rfl, hr⟩ := hfield
    rw [List.lookup_cons, List.lookup_cons]
    cases hname : name == name₁ with
    | true =>
      obtain rfl := eq_of_beq hname
      exact Option.Rel.some hr
    | false => exact ih

theorem Overlooks.required (h : Overlooks read (r name)) (hfields : SameFields r fields fields')
    (hread : required name read fields = ok a) : required name read fields' = ok a := by
  rw [required_eq_ok_iff] at hread ⊢
  obtain ⟨j, hj, hread⟩ := hread
  have hrel := rel_lookup hfields name
  rw [hj] at hrel
  generalize hj' : fields'.lookup name = found at hrel
  cases hrel with
  | @some _ j' hr => exact ⟨j', rfl, h hr hread⟩

theorem Overlooks.withDefault (h : Overlooks read (r name)) (hfields : SameFields r fields fields')
    (hread : withDefault name absent read fields = ok a) :
    withDefault name absent read fields' = ok a := by
  rw [withDefault_eq_ok_iff] at hread ⊢
  have hrel := rel_lookup hfields name
  generalize hj : fields.lookup name = found at hrel hread
  generalize hj' : fields'.lookup name = found' at hrel
  cases hrel with
  | none => exact Or.inl (hread.resolve_right fun ⟨j, hsome, _⟩ => Option.some_ne_none j hsome.symm)
  | @some j j' hr =>
    rcases hread with ⟨hnone, -⟩ | ⟨_, ⟨⟩, hread⟩
    · exact absurd hnone (Option.some_ne_none _)
    · exact Or.inr ⟨j', rfl, h hr hread⟩

end Reading

open Reading

/-! ## Records -/

theorem Pool.overlooks_read : Overlooks Pool.read Pool.Respelled := by
  intro j j' p hr h
  cases hr with
  | refl => exact h
  | fields hfields =>
    obtain ⟨_, ⟨⟩, h⟩ := Pool.read_eq_ok_iff.1 h
    exact Pool.read_eq_ok_iff.2 ⟨_, rfl, {
      id := (overlooks_eq text).required hfields h.id
      protocol := (overlooks_eq text).required hfields h.protocol
      tokens := overlooks_address.list.withDefault hfields h.tokens
      attributes := overlooks_bytes.table.withDefault hfields h.attributes }⟩

theorem Swap.overlooks_read : Overlooks Swap.read Swap.Respelled := by
  intro j j' s hr h
  cases hr with
  | refl => exact h
  | fields hfields =>
    obtain ⟨_, ⟨⟩, h⟩ := Swap.read_eq_ok_iff.1 h
    exact Swap.read_eq_ok_iff.2 ⟨_, rfl, {
      pool := Pool.overlooks_read.required hfields h.pool
      tokenIn := overlooks_address.required hfields h.tokenIn
      tokenOut := overlooks_address.required hfields h.tokenOut
      split := (overlooks_eq number).withDefault hfields h.split
      userData := (overlooks_bytes.nullable RespelledDigits.null_iff).withDefault hfields h.userData
      estimatedAmountIn := (overlooks_amount.nullable RespelledAmount.null_iff).withDefault hfields
        h.estimatedAmountIn }⟩

theorem Order.overlooks_read : Overlooks Order.read Order.Respelled := by
  intro j j' x hr h
  cases hr with
  | refl => exact h
  | fields hfields =>
    obtain ⟨_, ⟨⟩, h⟩ := Order.read_eq_ok_iff.1 h
    exact Order.read_eq_ok_iff.2 ⟨_, rfl, {
      exactOut := (overlooks_eq flag).withDefault hfields h.exactOut
      givenToken := overlooks_address.required hfields h.givenToken
      givenAmount := overlooks_amount.required hfields h.givenAmount
      checkedToken := overlooks_address.required hfields h.checkedToken
      checkAmount := overlooks_amount.required hfields h.checkAmount
      sender := overlooks_address.required hfields h.sender
      receiver := overlooks_address.required hfields h.receiver
      swaps := Swap.overlooks_read.list.withDefault hfields h.swaps
      withCall := (overlooks_eq flag).withDefault hfields h.withCall
      router := (overlooks_address.nullable RespelledDigits.null_iff).withDefault hfields h.router
      slippage := (overlooks_eq (nullable number)).withDefault hfields h.slippage
      nativeAction := (overlooks_eq (nullable NativeAction.read)).withDefault hfields
        h.nativeAction }⟩

theorem Solution.overlooks_read : Overlooks Solution.read Solution.Respelled := by
  intro j j' x hr h
  cases hr with
  | refl => exact h
  | fields hfields =>
    obtain ⟨_, ⟨⟩, h⟩ := Solution.read_eq_ok_iff.1 h
    exact Solution.read_eq_ok_iff.2 ⟨_, rfl, Order.overlooks_read.list.withDefault hfields h⟩

theorem Transaction.overlooks_read : Overlooks Transaction.read Transaction.Respelled := by
  intro j j' t hr h
  cases hr with
  | refl => exact h
  | fields hfields =>
    obtain ⟨_, ⟨⟩, h⟩ := Transaction.read_eq_ok_iff.1 h
    exact Transaction.read_eq_ok_iff.2 ⟨_, rfl, {
      target := overlooks_address.required hfields h.target
      value := overlooks_amount.withDefault hfields h.value
      data := overlooks_bytes.required hfields h.data }⟩

end SwapRouter
