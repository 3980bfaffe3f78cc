import SwapRouter.Error
import SwapRouter.Route.Outgoing

/-!
# Fractions of a fork

Every swap out of a fork but the last one must carry a fraction strictly between zero
and one.  The last one is zero, and then the others leave something over, or it is a
fraction too, and then all of them sum to one.  A token with a single swap carries no
fraction.
-/

namespace SwapRouter.Route

/-- How far a sum of fractions may be from its exact value: the number nearest to one
millionth. -/
def splitTolerance : Binary64 := (Numeral.decimal false 1 (-6)).toBinary64

/-- Whether a fraction lies between zero and one. -/
def isFraction (x : Binary64) : Bool := (Binary64.zero false).le x && x.le .one

/-- Whether a fraction may stand before the last swap of a fork. -/
def isInnerFraction (x : Binary64) : Bool := !x.isZero && !Binary64.one.le x

/-- Checks the range of the fractions out of a token. -/
def checkRange (token : Address) (outs : List Swap) : Except EncodingError Unit :=
  match outs.find? fun s => !isFraction s.split with
  | some s => .error (.splitOutOfRange s.split token.text s.pool.id)
  | none => .ok ()

/-- Checks how the fractions of a fork add up.  `inner` are the swaps before the last one. -/
def checkSum (token : Address) (inner : List Swap) (last : Swap) : Except EncodingError Unit :=
  match inner.find? fun s => !isInnerFraction s.split with
  | some s => .error (.earlyRemainder s.split token.text s.pool.id)
  | none =>
    let total := Binary64.sum (inner.map Swap.split)
    if last.split.isZero then
      if (Binary64.one.sub splitTolerance).le total then .error (.emptyRemainder total token.text)
      else .ok ()
    else if splitTolerance.lt ((total.add last.split).sub .one).abs then
      .error (.incompleteSplits (total.add last.split) token.text)
    else .ok ()

/-- Checks the fractions out of one token. -/
def checkSplitsOf (token : Address) (outs : List Swap) : Except EncodingError Unit := do
  checkRange token outs
  match outs with
  | [] => .ok ()
  | [only] =>
    if only.split.isZero then .ok () else .error (.splitOfOnlySwap only.split token.text)
  | first :: rest =>
    let swaps := first :: rest
    checkSum token swaps.dropLast (rest.getLastD first)

/-- Checks the fractions out of every token. -/
def checkSplits (swaps : List Swap) : Except EncodingError Unit :=
  (outgoing swaps).forM fun (token, outs) => checkSplitsOf token outs

end SwapRouter.Route
