/-!
# Characters of a text

The characters of a text are decoded from its bytes.  A text of ASCII has one byte for each
character, and is read off without decoding.
-/

namespace SwapRouter.Text

/-- The bytes as which a text is kept. -/
def keptBytes (s : String) : List UInt8 := s.toByteArray.data.toList

/-- The characters of a text. -/
def chars (s : String) : List Char :=
  if (keptBytes s).all (· < 0x80) then (keptBytes s).map fun b => Char.ofNat b.toNat
  else s.toList

/-- A character whose bytes are of ASCII is its only byte. -/
theorem utf8EncodeChar_of_ascii {c : Char} (h : (String.utf8EncodeChar c).all (· < 0x80) = true) :
    String.utf8EncodeChar c = [UInt8.ofNat c.toNat] ∧ c.toNat < 128 := by
  -- the first byte of a longer character is not one of ASCII
  unfold String.utf8EncodeChar at h ⊢
  dsimp only at h ⊢
  split at h
  next hle => exact ⟨if_pos hle, Nat.lt_succ_of_le hle⟩
  next =>
    split at h
    next => simp [UInt8.lt_iff_toNat_lt] at h; omega
    next => split at h <;> simp [UInt8.lt_iff_toNat_lt] at h <;> omega

/-- Characters whose bytes are all of ASCII are these bytes. -/
theorem map_utf8EncodeChar {cs : List Char}
    (h : (cs.flatMap String.utf8EncodeChar).all (· < 0x80) = true) :
    (cs.flatMap String.utf8EncodeChar).map (fun b => Char.ofNat b.toNat) = cs := by
  induction cs with
  | nil => rfl
  | cons c cs ih =>
    rw [List.flatMap_cons, List.all_append, Bool.and_eq_true] at h
    obtain ⟨hbyte, hlt⟩ := utf8EncodeChar_of_ascii h.1
    rw [List.flatMap_cons, List.map_append, ih h.2, hbyte, List.map_singleton, UInt8.toNat_ofNat',
      Nat.mod_eq_of_lt (Nat.lt_trans hlt (by decide)), Char.ofNat_toNat, List.singleton_append]

theorem keptBytes_eq_flatMap (s : String) :
    keptBytes s = s.toList.flatMap String.utf8EncodeChar := by
  have hs : s.toByteArray = (s.toList.flatMap String.utf8EncodeChar).toByteArray :=
    (congrArg String.toByteArray (String.ofList_toList (s := s))).symm.trans
      String.toByteArray_ofList
  rw [keptBytes, hs, List.toList_data_toByteArray]

@[simp] theorem chars_eq (s : String) : chars s = s.toList := by
  rw [chars]
  split
  next h =>
    rw [keptBytes_eq_flatMap] at h ⊢
    exact map_utf8EncodeChar h
  next => rfl

end SwapRouter.Text
