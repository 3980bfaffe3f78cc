import SwapRouter.Proofs.JsonNames

/-!
# Room for the levels of a value

Where calls may only be nested so deep, a value is read as far as there is room for its levels.  With
more room the same is read: the reader either never runs out of it, or it stops at the first bracket for
which there is none, and nothing behind this bracket matters.

* `Json.read_eq_ok_or_tooDeep`: **a text that can be read is read alike with limited room**, or it is
  nested too deep for it.
-/

namespace SwapRouter

namespace Json

variable {α β : Type} {x y : Except ReadFault α} {steps room more : ℕ} {c : Char} {cs : List Char}

/-- What is found with less room: the same, or that there is not enough of it. -/
def SameOrTooDeep (x y : Except ReadFault α) : Prop := x = y ∨ x = .error .tooDeep

theorem SameOrTooDeep.map (h : SameOrTooDeep x y) (f : α → β) : SameOrTooDeep (x.map f) (y.map f) :=
  h.imp (congrArg _) fun hx => by rw [hx]; rfl

/-- A value that is neither a list nor an object needs no room. -/
theorem value_eq_scalar (hlist : c ≠ '[') (hobject : c ≠ '\x7b') :
    value (steps + 1) room (c :: cs) = scalar (c :: cs) := by
  rw [value] <;> simp [hlist, hobject]

/-- What the three readers find with less room, with an allowance of steps. -/
structure FindsSame (steps : ℕ) : Prop where
  value : ∀ {room more cs}, room ≤ more → SameOrTooDeep (value steps room cs) (value steps more cs)
  items : ∀ {room more cs found}, room ≤ more →
    SameOrTooDeep (items steps room cs found) (items steps more cs found)
  fields : ∀ {room more cs found}, room ≤ more →
    SameOrTooDeep (fields steps room cs found) (fields steps more cs found)

namespace FindsSame

theorem value_succ (ih : FindsSame steps) (h : room ≤ more) :
    SameOrTooDeep (Json.value (steps + 1) room cs) (Json.value (steps + 1) more cs) := by
  obtain _ | ⟨c, rest⟩ := cs
  · exact Or.inl (by rw [Json.value, Json.value] <;> simp)
  by_cases hlist : c = '['
  · subst hlist
    obtain _ | room := room
    · exact Or.inr rfl
    obtain _ | more := more
    · exact absurd h (Nat.not_succ_le_zero room)
    rw [Json.value, Json.value]
    split
    · exact Or.inl rfl
    · exact (ih.items (Nat.le_of_succ_le_succ h)).map _
  by_cases hobject : c = '\x7b'
  · subst hobject
    obtain _ | room := room
    · exact Or.inr rfl
    obtain _ | more := more
    · exact absurd h (Nat.not_succ_le_zero room)
    rw [Json.value, Json.value]
    split
    · exact Or.inl rfl
    · exact (ih.fields (Nat.le_of_succ_le_succ h)).map _
  exact Or.inl ((value_eq_scalar hlist hobject).trans (value_eq_scalar hlist hobject).symm)

theorem items_succ (ih : FindsSame steps) (h : room ≤ more) {found : List Json} :
    SameOrTooDeep (Json.items (steps + 1) room cs found) (Json.items (steps + 1) more cs found) := by
  rw [Json.items, Json.items]
  have hitem : SameOrTooDeep (Json.value steps room cs) (Json.value steps more cs) := ih.value h
  rcases hitem with hsame | hdeep
  · rw [hsame]
    split
    · exact Or.inl rfl
    · split
      · exact ih.items h
      · exact Or.inl rfl
      · exact Or.inl rfl
  · rw [hdeep]
    exact Or.inr rfl

theorem fields_succ (ih : FindsSame steps) (h : room ≤ more) {found : List (String × Json)} :
    SameOrTooDeep (Json.fields (steps + 1) room cs found)
      (Json.fields (steps + 1) more cs found) := by
  obtain _ | ⟨c, rest⟩ := cs
  · exact Or.inl (by rw [Json.fields, Json.fields] <;> simp)
  by_cases hquote : c = '\x22'
  · subst hquote
    rw [Json.fields, Json.fields]
    split
    · exact Or.inl rfl
    · split
      next rest _ =>
        have hitem : SameOrTooDeep (Json.value steps room (skipGaps rest))
            (Json.value steps more (skipGaps rest)) := ih.value h
        rcases hitem with hsame | hdeep
        · rw [hsame]
          split
          · exact Or.inl rfl
          · split
            · exact ih.fields h
            · exact Or.inl rfl
            · exact Or.inl rfl
        · rw [hdeep]
          exact Or.inr rfl
      · exact Or.inl rfl
  · exact Or.inl (by rw [Json.fields, Json.fields] <;> simp [hquote])

/-- **Every allowance of steps**, by induction: all three readers go on with one step less. -/
theorem all (steps : ℕ) : FindsSame steps := by
  induction steps with
  | zero => exact ⟨fun _ => Or.inl rfl, fun _ => Or.inl rfl, fun _ => Or.inl rfl⟩
  | succ steps ih => exact ⟨ih.value_succ, fun h => ih.items_succ h, fun h => ih.fields_succ h⟩

end FindsSame

variable {s : String} {j : Json}

theorem sameOrTooDeep_read {few many : Option ℕ}
    (h : few.getD s.toList.length ≤ many.getD s.toList.length) :
    SameOrTooDeep (read s few) (read s many) := by
  have hvalue : SameOrTooDeep
      (value (s.toList.length + 1) (few.getD s.toList.length) (skipGaps s.toList))
      (value (s.toList.length + 1) (many.getD s.toList.length) (skipGaps s.toList)) :=
    (FindsSame.all _).value h
  unfold read
  rw [Text.chars_eq]
  dsimp only
  rcases hvalue with hsame | hdeep
  · rw [hsame]
    exact Or.inl rfl
  · rw [hdeep]
    exact Or.inr rfl

/-- **A text that can be read is read alike where the room is limited**, or it is nested too deep. -/
theorem read_eq_ok_or_tooDeep (h : read s = .ok j) (room : Option ℕ) :
    read s room = .ok j ∨ read s room = .error .tooDeep := by
  rcases Nat.le_total (room.getD s.toList.length) s.toList.length with hless | hmore
  · have hlimited : SameOrTooDeep (read s room) (read s) := sameOrTooDeep_read hless
    rwa [SameOrTooDeep, h] at hlimited
  · have hlimited : SameOrTooDeep (read s) (read s room) := sameOrTooDeep_read hmore
    rw [SameOrTooDeep, h] at hlimited
    exact hlimited.imp Eq.symm fun hdeep => by cases hdeep

end Json

end SwapRouter
