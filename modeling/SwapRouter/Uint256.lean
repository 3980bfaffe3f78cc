import SwapRouter.Fault
import SwapRouter.Text.Integer

/-!
# Amounts

An amount is a whole number below `2 ^ 256`.  It is received as a JSON number or as the
text of a decimal integer, in which underscores are ignored.
-/

namespace SwapRouter

/-- A whole number of 256 bits. -/
structure Uint256 where
  toNat : Nat
  isLt : toNat < Nat.pow 2 256
  deriving DecidableEq

namespace Uint256

/-- Zero. -/
def zero : Uint256 := ⟨0, by decide⟩

instance : Inhabited Uint256 := ⟨zero⟩

/-- A whole number as an amount. -/
def ofInt (n : Int) : Except ValueFault Uint256 :=
  if n < 0 then .error (.negative n)
  else if h : n.toNat < Nat.pow 2 256 then .ok ⟨n.toNat, h⟩
  else .error (.overflow n)

/-- Reads the text of an amount. -/
def ofText (s : String) : Except ValueFault Uint256 :=
  match Text.decimalInteger? (String.ofList (s.toList.filter (· ≠ '_'))) with
  | some n => ofInt n
  | none => .error (.notDecimal s)

/-- Reads an amount. -/
def ofJson : Json → Except ValueFault Uint256
  | .int n => ofInt n
  | .str s => ofText s
  | other => .error (.notAmount other.kindName)

@[simp] theorem ofInt_toNat (n : Uint256) : ofInt n.toNat = .ok n := by
  unfold ofInt
  rw [if_neg (show ¬ ((n.toNat : Int) < 0) by omega)]
  exact dif_pos n.isLt

/-- An amount is read from a whole number exactly when the number is in range. -/
theorem ofInt_eq_ok_iff {n : Int} {a : Uint256} : ofInt n = .ok a ↔ n = a.toNat := by
  constructor
  · intro h
    unfold ofInt at h
    split at h
    · simp at h
    · split at h
      · simp only [Except.ok.injEq] at h
        subst h
        simp; omega
      · simp at h
  · rintro rfl
    exact ofInt_toNat a

end Uint256

/-- Reads a byte string: text in hexadecimal digits, `0x` in front or not. -/
def Bytes.ofJson : Json → Except ValueFault Bytes
  | .str s => match ofHex? s with
    | some bs => .ok bs
    | none => .error (.notHex s)
  | other => .error (.notBytes other.kindName)

end SwapRouter
