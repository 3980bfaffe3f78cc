import SwapRouter.Abi.Signature
import SwapRouter.Chain
import SwapRouter.ChainReader
import SwapRouter.Secp256k1
import SwapRouter.Session

/-!
# Permits

With a permit the owner of tokens lets the router pull a certain amount of them.  The
permit is signed with the owner's key, in the form of typed data: the hash of its type
and its fields, under a hash that names the contract and the chain for which it holds.

`Permit.digest` is the hash that is signed.  Two hashes stand inside it, one for the
details of the permit and one for the permit itself.
-/

namespace SwapRouter

/-- The token, the amount, the end and the number of a permit. -/
structure PermitDetails where
  token : Address
  amount : Int
  expiration : Int
  nonce : Int
  deriving DecidableEq

/-- A permit for one token. -/
structure Permit where
  details : PermitDetails
  spender : Address
  deadline : Int
  deriving DecidableEq

namespace Permit

/-- The contract that keeps permits, on every chain. -/
def contract : Address := ⟨"0x000000000022d473030f116ddee9f6b43ac78ba3"⟩

/-- How long a permit lasts, in seconds. -/
def lifetime : Int := 30 * 24 * 60 * 60

/-- How long a signature may be used, in seconds. -/
def signatureLifetime : Int := 30 * 60

/-- The permit as an argument of a call. -/
def toAbi (p : Permit) : Except Failure AbiValue := do
  let token ← p.details.token.toBytes
  let spender ← p.spender.toBytes
  return .tuple [
    .tuple [.bytes token, .number p.details.amount, .number p.details.expiration,
      .number p.details.nonce],
    .bytes spender,
    .number p.deadline]

/-! ## Typed data -/

/-- The type of the details, as it is hashed. -/
def detailsType : String :=
  "PermitDetails(address token,uint160 amount,uint48 expiration,uint48 nonce)"

/-- The type of a permit, as it is hashed, with the type of its details behind it. -/
def permitType : String :=
  "PermitSingle(PermitDetails details,address spender,uint256 sigDeadline)" ++ detailsType

/-- The type of the domain, as it is hashed. -/
def domainType : String :=
  "EIP712Domain(string name,uint256 chainId,address verifyingContract)"

/-- The 20 bytes of an address under the strict reading; another one is a defect. -/
def addressBytes (a : Address) : Except Failure Bytes :=
  match a.strictBytes? with
  | some bs => .ok bs
  | none => .error .defect

/-- What is hashed for the domain: its type, its name, the chain and the contract. -/
def domainEncoding (chainId : Nat) (contractBytes : Bytes) : Bytes :=
  Keccak.hashText domainType ++ Keccak.hashText "Permit2" ++ Bytes.ofNat 32 chainId
    ++ Bytes.zeros 12 ++ contractBytes

/-- What is hashed for the details. -/
def detailsEncoding (d : PermitDetails) : Except Failure Bytes := do
  let fields ← Abi.encodeAll [.address, .uint 160, .uint 48, .uint 48]
    [.bytes (← addressBytes d.token), .number d.amount, .number d.expiration, .number d.nonce]
  return Keccak.hashText detailsType ++ fields

/-- What is hashed for a permit. -/
def permitEncoding (p : Permit) : Except Failure Bytes := do
  let details ← detailsEncoding p.details
  let fields ← Abi.encodeAll [.address, .uint 256]
    [.bytes (← addressBytes p.spender), .number p.deadline]
  return Keccak.hashText permitType ++ Keccak.hash details ++ fields

/-- What is hashed for the signature: a mark, the hash of the domain and that of the
permit. -/
def signedEncoding (chain : Chain) (p : Permit) : Except Failure Bytes := do
  let domain := domainEncoding chain.id (← addressBytes contract)
  let permit ← permitEncoding p
  return [0x19, 0x01] ++ Keccak.hash domain ++ Keccak.hash permit

/-- The hash that is signed. -/
def digest (chain : Chain) (p : Permit) : Except Failure Bytes := do
  return Keccak.hash (← signedEncoding chain p)

/-! ## The nonce on the chain -/

/-- The signature of the function that tells the state of a permit. -/
def allowanceSignature : String := "allowance(address,address,address)"

/-- The data of a call that reads the state of a permit. -/
def allowanceData (owner token spender : Address) : Except Failure Bytes := do
  Abi.call allowanceSignature [
    .bytes (← addressBytes owner.normal), .bytes (← addressBytes token.normal),
    .bytes (← addressBytes spender.normal)]

/-- Reads the nonce from a response. -/
def nonceOfResponse (response : Bytes) : Except Failure Int :=
  match Abi.decodeAll? [.uint 160, .uint 48, .uint 48] response with
  | some [_, _, .number nonce] => .ok nonce
  | _ => .error (.encoding (.undecodablePermitAllowance response))

end Permit

/-- Who signs permits: the key with its address, the chain, the time in whole seconds, and
where nonces are read.  A clock may show no finite time. -/
structure Signer where
  key : Secp256k1.SecretKey
  owner : Address
  chain : Chain
  now : Option Int
  reader : Option ChainReader

namespace Signer

/-- The address of a key. -/
def addressOf (key : Secp256k1.SecretKey) : Address :=
  .ofBytes ((Keccak.hash key.publicBytes).drop 12)

/-- Reads a key: 32 bytes in hexadecimal digits without blanks. -/
def readKey? (text : String) : Option Secp256k1.SecretKey := do
  let body := Bytes.dropMark text.toList
  let bs ← Bytes.pairs? (if body.length % 2 = 1 then '0' :: body else body)
  Secp256k1.SecretKey.ofBytes? bs

/-- The signer with the key that a text holds. -/
def ofText (chain : Chain) (text : String) (now : Option Int) (reader : Option ChainReader) :
    Except EncodingError Signer :=
  match readKey? text with
  | some key => .ok ⟨key, addressOf key, chain, now, reader⟩
  | none => .error .invalidSignerKey

/-- The nonce of the next permit. -/
def nonce (s : Signer) (owner token spender : Address) : Encode Int := do
  match s.reader with
  | none => .fail (.encoding .noNonceSource)
  | some reader =>
    let data ← .ofExcept (Permit.allowanceData owner token spender)
    .ask (.read .permit Permit.contract data)
    let response ← .ofExcept (reader Permit.contract data)
    .ofExcept (Permit.nonceOfResponse response)

/-- The time from which a permit counts; no finite time is a defect. -/
def start (s : Signer) : Except Failure Int :=
  match s.now with
  | some t => .ok t
  | none => .error .defect

/-- A permit that lets a spender pull tokens of the signer. -/
def permit (s : Signer) (spender owner token : Address) (amount : Int) : Encode Permit := do
  if owner.normal ≠ s.owner then
    .fail (.encoding (.foreignSender owner.normal.text s.owner.text))
  else if (Nat.pow 2 160 : Nat) ≤ amount then
    .fail (.encoding (.permitTooLarge amount))
  else
    let nonce ← s.nonce owner.normal token spender
    let start ← .ofExcept s.start
    return {
      details := ⟨token.normal, amount, start + Permit.lifetime, nonce⟩
      spender := spender.normal
      deadline := start + Permit.signatureLifetime }

/-- Signs a permit. -/
def sign (s : Signer) (p : Permit) : Except Failure Bytes := do
  match Secp256k1.sign? s.key (← Permit.digest s.chain p) with
  | some signature => return signature.toBytes
  | none => throw .defect

end Signer

end SwapRouter
