import SwapRouter.Text.Case
import SwapRouter.Text.Integer
import SwapRouter.Url.DomainName
import SwapRouter.Url.Escape

/-!
# Hosts

A host is four numbers with dots between them, an address of 128 bits in brackets, or a
name.  Numbers are checked and kept as they are written; a name in ASCII is written in
lower case with escapes, and one in another script as a domain name.
-/

namespace SwapRouter.Url

/-- Whether a text is a number of one byte, without zeros in front. -/
def isByteText (cs : List Char) : Bool :=
  cs ≠ [] && cs.length ≤ 3 && cs.all Char.isDigit && (cs.length = 1 || cs.head? ≠ some '0')
    && Text.ofDigits 10 (cs.map fun c => c.toNat - 48) < 256

/-- Whether a host looks like four numbers. -/
def hasFourNumbers (host : List Char) : Bool :=
  let parts := host.splitOn '.'
  parts.length = 4 && parts.all fun part => part ≠ [] && part.all Char.isDigit

/-- Whether a text is an address of four bytes. -/
def isShortAddress (cs : List Char) : Bool :=
  let parts := cs.splitOn '.'
  parts.length = 4 && parts.all isByteText

/-- Whether a text is a group of an address of 128 bits. -/
def isAddressGroup (cs : List Char) : Bool :=
  cs ≠ [] && cs.length ≤ 4 && cs.all fun c => (Bytes.hexValue? c).isSome

/-- The groups of an address of 128 bits; the last of them may be written as four bytes,
which count as two groups. -/
def addressGroups? (cs : List Char) : Option (List (List Char)) :=
  let groups := cs.splitOn ':'
  if groups.length < 3 then none
  else match groups.getLast? with
    | some last =>
      if last.contains '.' then
        if isShortAddress last then some (groups.dropLast ++ [['0'], ['0']]) else none
      else some groups
    | none => none

/-- Whether groups make up an address of 128 bits: eight of them, or fewer with one gap.
A gap at an end is written by two empty groups. -/
def areAddressGroups (groups : List (List Char)) : Bool :=
  let inner := (groups.drop 1).dropLast
  let (before, after) := (inner.takeWhile (· ≠ []), inner.dropWhile (· ≠ []))
  match after with
  | [] => groups.length = 8 && groups.all isAddressGroup
  | _ :: after =>
    let before := groups.take 1 ++ before
    let after := after ++ groups.drop (groups.length - 1)
    let before := if before = [[]] then [] else before
    let after := if after = [[]] then [] else after
    before.all isAddressGroup && after.all isAddressGroup && before.length + after.length < 8

/-- Whether a text is an address of 128 bits, perhaps with a zone behind a percent sign. -/
def isLongAddress (cs : List Char) : Bool :=
  let address := cs.takeWhile (· ≠ '%')
  let zone := cs.dropWhile (· ≠ '%')
  (zone = [] || (zone.length ≠ 1 && !(zone.drop 1).contains '%'))
    && (addressGroups? address).any areAddressGroups

/-- The form in which a host is kept; nothing for a host that cannot be. -/
def keptHost? (host : List Char) : Option (List Char) :=
  if host = [] then some []
  else if hasFourNumbers host then if isShortAddress host then some host else none
  else if host.head? = some '[' && host.getLast? = some ']' then
    let address := (host.drop 1).dropLast
    if isLongAddress address then some address else none
  else if host.all fun c => c.toNat < 0x80 then
    some (escape isHostChar (host.map Char.toLower))
  else DomainName.encode? (Text.lowercase (String.ofList host)).toList

end SwapRouter.Url
