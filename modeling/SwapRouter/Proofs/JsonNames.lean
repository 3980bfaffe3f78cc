import Mathlib.Data.List.Nodup
import SwapRouter.Json.Reader

/-!
# Names of fields

A JSON text may write a name twice in one object, but what is read from it has no name twice: a field
that comes again takes the place of the one before.

* `Json.mem_put`, `Json.nodup_put`: a field that is put in its place.
* `Json.hasDistinctNames_of_read`: **a value read from a text has no name twice in an object.**
-/

namespace SwapRouter

theorem mem_of_lookup {α : Type} {fields : List (String × α)} {name : String} {value : α}
    (h : fields.lookup name = some value) : (name, value) ∈ fields := by
  obtain ⟨before, behind, rfl, -⟩ := List.lookup_eq_some_iff.1 h
  exact List.mem_append_right _ List.mem_cons_self

namespace Json

/-! ## Putting fields in their place -/

section Put

variable {α : Type} {entries : List (String × α)} {name : String} {value : α}

/-- The names of a list of fields. -/
abbrev names (entries : List (String × α)) : List String := entries.map (·.1)

theorem put_of_notMem (h : name ∉ names entries) : put entries name value = entries ++ [(name, value)] := by
  have hany : ¬ (entries.any (·.1 = name)) = true := by simpa [names] using h
  rw [put, if_neg hany]

theorem put_of_mem (h : name ∈ names entries) : names (put entries name value) = names entries := by
  have hany : (entries.any (·.1 = name)) = true := by simpa [names] using h
  rw [put, if_pos hany, names, List.map_map]
  refine List.map_congr_left fun entry _ => ?_
  by_cases hentry : entry.1 = name
  · rw [Function.comp_apply, if_pos hentry, hentry]
  · rw [Function.comp_apply, if_neg hentry]

theorem mem_put {entry : String × α} (h : entry ∈ put entries name value) :
    entry = (name, value) ∨ entry ∈ entries := by
  rw [put] at h
  split at h
  · obtain ⟨old, hold, rfl⟩ := List.mem_map.1 h
    split
    · exact Or.inl rfl
    · exact Or.inr hold
  · rw [List.mem_append, List.mem_singleton] at h
    exact h.symm

/-- **A field that is put in its place leaves the names different.** -/
theorem nodup_put (h : (names entries).Nodup) : (names (put entries name value)).Nodup := by
  by_cases hname : name ∈ names entries
  · rwa [put_of_mem hname]
  · rw [put_of_notMem hname, names, List.map_append, List.nodup_append]
    refine ⟨h, List.nodup_singleton _, ?_⟩
    rintro a ha b hb rfl
    obtain rfl : a = name := List.mem_singleton.1 hb
    exact hname ha

end Put

/-! ## Values that are read -/

/-- No object inside a value has a name twice. -/
inductive HasDistinctNames : Json → Prop
  | null : HasDistinctNames .null
  | bool (b : Bool) : HasDistinctNames (.bool b)
  | int (n : Int) : HasDistinctNames (.int n)
  | float (x : Binary64) : HasDistinctNames (.float x)
  | str (s : String) : HasDistinctNames (.str s)
  | arr {items : List Json} (hitems : ∀ item ∈ items, HasDistinctNames item) :
    HasDistinctNames (.arr items)
  | obj {fields : List (String × Json)} (hnames : (names fields).Nodup)
    (hfields : ∀ field ∈ fields, HasDistinctNames field.2) : HasDistinctNames (.obj fields)

variable {j : Json} {cs rest : List Char}

/-- A field of such an object is such a value. -/
theorem HasDistinctNames.of_lookup {fields : List (String × Json)} {name : String}
    (h : (Json.obj fields).HasDistinctNames) (hlookup : fields.lookup name = some j) :
    j.HasDistinctNames := by
  cases h with
  | obj _ hfields => exact hfields (name, j) (mem_of_lookup hlookup)

/-- A value is neither a list nor an object. -/
def IsFlat : Json → Prop
  | .arr _ | .obj _ => False
  | _ => True

theorem IsFlat.hasDistinctNames (h : j.IsFlat) : j.HasDistinctNames := by
  cases j with
  | null => exact .null
  | bool b => exact .bool b
  | int n => exact .int n
  | float x => exact .float x
  | str s => exact .str s
  | arr items => exact h.elim
  | obj fields => exact h.elim

theorem isFlat_of_number {negative : Bool} (h : number negative cs = .ok (j, rest)) : j.IsFlat := by
  unfold number at h
  dsimp only at h
  split_ifs at h
  · obtain ⟨rfl, -⟩ := Prod.mk.inj (Except.ok.inj h)
    trivial
  · split at h
    · obtain ⟨rfl, -⟩ := Prod.mk.inj (Except.ok.inj h)
      trivial
    · cases h

/-- What is read without a bracket or a brace is flat. -/
theorem isFlat_of_scalar (h : scalar cs = .ok (j, rest)) : j.IsFlat := by
  unfold scalar at h
  split at h
  next word value hfind =>
    obtain ⟨rfl, -⟩ := Prod.mk.inj (Except.ok.inj h)
    have hmem := List.mem_of_find?_eq_some hfind
    simp only [words, List.mem_cons, Prod.mk.injEq, List.not_mem_nil, or_false] at hmem
    rcases hmem with ⟨-, rfl⟩ | ⟨-, rfl⟩ | ⟨-, rfl⟩ | ⟨-, rfl⟩ | ⟨-, rfl⟩ | ⟨-, rfl⟩ <;> trivial
  next =>
    split at h
    next rest' _ =>
      cases htext : text rest' with
      | error e => rw [htext] at h; cases h
      | ok found =>
        rw [htext] at h
        obtain ⟨rfl, -⟩ := Prod.mk.inj (Except.ok.inj h)
        trivial
    next => exact isFlat_of_number h
    next => exact isFlat_of_number h

theorem hasDistinctNames_empty : (Json.obj []).HasDistinctNames :=
  .obj List.nodup_nil fun _ hfield => absurd hfield List.not_mem_nil

/-- An object stays one without a name twice when a field is put in its place. -/
theorem HasDistinctNames.put {fields : List (String × Json)}
    (h : (Json.obj fields).HasDistinctNames) (name : String) (hj : j.HasDistinctNames) :
    (Json.obj (Json.put fields name j)).HasDistinctNames := by
  cases h with
  | obj hnames hfields =>
    refine .obj (nodup_put hnames) fun field hfield => ?_
    rcases mem_put hfield with rfl | hfield
    · exact hj
    · exact hfields field hfield

theorem map_eq_ok_iff {ε α β : Type} {f : α → β} {x : Except ε α} {b : β} :
    x.map f = .ok b ↔ ∃ a, x = .ok a ∧ f a = b := by
  cases x <;> simp [Except.map]

/-- What the three readers find with an allowance of steps. -/
structure FindsDistinctNames (steps : Nat) : Prop where
  value : ∀ {room cs j rest}, value steps room cs = .ok (j, rest) → j.HasDistinctNames
  items : ∀ {room cs found js rest}, items steps room cs found = .ok (js, rest) →
    (∀ item ∈ found, item.HasDistinctNames) → ∀ item ∈ js, item.HasDistinctNames
  fields : ∀ {room cs found js rest}, fields steps room cs found = .ok (js, rest) →
    (Json.obj found).HasDistinctNames → (Json.obj js).HasDistinctNames

namespace FindsDistinctNames

variable {steps room : Nat}

theorem value_succ (ih : FindsDistinctNames steps)
    (h : Json.value (steps + 1) room cs = .ok (j, rest)) : j.HasDistinctNames := by
  unfold Json.value at h
  split at h
  next => cases h
  next => cases h
  next => cases h
  next steps' _ _ hsteps =>
    obtain rfl := Nat.succ.inj hsteps
    split at h
    · obtain ⟨rfl, -⟩ := Prod.mk.inj (Except.ok.inj h)
      exact .arr fun _ hitem => absurd hitem List.not_mem_nil
    · obtain ⟨⟨found, rest⟩, hread, hj⟩ := map_eq_ok_iff.1 h
      obtain ⟨rfl, -⟩ := Prod.mk.inj hj
      exact .arr (ih.items hread fun _ hitem => absurd hitem List.not_mem_nil)
  next steps' _ _ hsteps =>
    obtain rfl := Nat.succ.inj hsteps
    split at h
    · obtain ⟨rfl, -⟩ := Prod.mk.inj (Except.ok.inj h)
      exact hasDistinctNames_empty
    · obtain ⟨⟨found, rest⟩, hread, hj⟩ := map_eq_ok_iff.1 h
      obtain ⟨rfl, -⟩ := Prod.mk.inj hj
      exact ih.fields hread hasDistinctNames_empty
  next => exact (isFlat_of_scalar h).hasDistinctNames

theorem items_succ (ih : FindsDistinctNames steps) {found js : List Json}
    (h : Json.items (steps + 1) room cs found = .ok (js, rest)) (hfound : ∀ item ∈ found, item.HasDistinctNames) :
    ∀ item ∈ js, item.HasDistinctNames := by
  rw [Json.items] at h
  cases hitem : Json.value steps room cs with
  | error fault => rw [hitem] at h; cases h
  | ok read =>
    obtain ⟨item, rest⟩ := read
    rw [hitem] at h
    have hmore := List.forall_mem_cons.2 ⟨ih.value hitem, hfound⟩
    dsimp only at h
    split at h
    · exact ih.items h hmore
    · obtain ⟨rfl, -⟩ := Prod.mk.inj (Except.ok.inj h)
      exact fun item hmem => hmore item (List.mem_reverse.1 hmem)
    · cases h

theorem fields_succ (ih : FindsDistinctNames steps) {found js : List (String × Json)}
    (h : Json.fields (steps + 1) room cs found = .ok (js, rest))
    (hfound : (Json.obj found).HasDistinctNames) : (Json.obj js).HasDistinctNames := by
  unfold Json.fields at h
  split at h
  next => cases h
  next room _ _ _ _ _ steps' _ hsteps =>
    obtain rfl := Nat.succ.inj hsteps
    split at h
    next => cases h
    next name rest _ =>
      split at h
      next rest _ =>
        cases hitem : Json.value steps room (skipGaps rest) with
        | error fault => rw [hitem] at h; cases h
        | ok read =>
          obtain ⟨item, rest⟩ := read
          rw [hitem] at h
          have hmore := hfound.put name (ih.value hitem)
          dsimp only at h
          split at h
          · exact ih.fields h hmore
          · obtain ⟨rfl, -⟩ := Prod.mk.inj (Except.ok.inj h)
            exact hmore
          · cases h
      next => cases h
  next => cases h

/-- **Every allowance of steps**, by induction: all three readers go on with one step less. -/
theorem all (steps : Nat) : FindsDistinctNames steps := by
  induction steps with
  | zero =>
    refine ⟨fun h => ?_, fun h => ?_, fun h => ?_⟩
    · rw [Json.value] at h
      cases h
    · rw [Json.items] at h
      cases h
    · rw [Json.fields] at h
      cases h
  | succ steps ih => exact ⟨ih.value_succ, ih.items_succ, ih.fields_succ⟩

end FindsDistinctNames

/-- **A value read from a text has no name twice in an object.** -/
theorem hasDistinctNames_of_read {s : String} {room : Option Nat} (h : read s room = .ok j) :
    j.HasDistinctNames := by
  unfold read at h
  dsimp only at h
  split at h
  next => cases h
  next found rest hfound =>
    split at h
    · obtain rfl := Except.ok.inj h
      exact (FindsDistinctNames.all _).value hfound
    · cases h

end Json

end SwapRouter
