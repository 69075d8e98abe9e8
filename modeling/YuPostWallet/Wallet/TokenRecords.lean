/-
  YuPostWallet.Wallet.TokenRecords — the wallet's token, token-transaction, delegation and
  super-staker records (`CTokenInfo`, `CTokenTx`, `CDelegationInfo`, `CSuperStakerInfo`)
  and their `SerializationOp`.

  Each `SerializationOp` writes the wallet-only fields first, and only on a stream that is
  not a hash writer (`!(s.GetType() & SER_GETHASH)`), then the fields that also enter the
  record's hash.  The disk stream is the first kind, so every field travels.

  One field is read differently from how it is written: `CTokenTx::strLabel` goes through
  `LIMITED_STRING(strLabel, 65536)`, which writes the string as it is and REJECTS it on
  read when it is longer than 65536 bytes.

  Main results:
    * `tokenRecords_roundTrip` — on a disk stream, reading back what was written gives every
      `CTokenInfo`, `CDelegationInfo` and `CSuperStakerInfo` back, and a `CTokenTx` back
      exactly when its label fits the limit (else the read fails);
    * `tokenTx_longLabel_unreadable` — a label of 65537 bytes is written and never read.
-/
import YuPostWallet.Serialize.Stream
import Mathlib.Data.String.Basic

namespace YuPostWallet

open Serializable

/-! ## §1. `LIMITED_STRING`. -/

/-- `LIMITED_STRING(obj, n)`, which `serialize.h` (not in src) defines as the wrapper
`LimitedString<n>(REF(obj))`: its `Serialize` writes the string as a plain string does, and
its `Unserialize` reads the length and throws when it exceeds `n`, so the read fails when
the string is longer than `limit` bytes (`std::string::size()`, the UTF-8 byte count). -/
def readLimitedString (limit : Nat) : Reader String := do
  let s : String ← unser
  if s.utf8ByteSize > limit then .fail else pure s

/-- A limited read of a written string: the string back when it fits, a failure else. -/
theorem readLimitedString_bind {β : Type} (limit : Nat) (s : String) (f : String → Reader β)
    (rest : List Token) :
    (readLimitedString limit >>= f) (ser s ++ rest) =
      if s.utf8ByteSize ≤ limit then f s rest else none := by
  show ((unser >>= _) >>= f) (ser s ++ rest) = _
  rw [bind_apply, unser_bind]
  by_cases h : s.utf8ByteSize ≤ limit
  · simp only [h, if_true, show ¬ s.utf8ByteSize > limit from Nat.not_lt.mpr h, if_false]
    rfl
  · simp only [h, if_false, show s.utf8ByteSize > limit from Nat.lt_of_not_le h, if_true]
    rfl

/-! ## §2. `CTokenInfo`. -/

/-- `CTokenInfo`: a token contract the wallet follows. -/
structure CTokenInfo where
  nVersion : BitVec 32
  strContractAddress : String
  strTokenName : String
  strTokenSymbol : String
  nDecimals : BitVec 8
  strSenderAddress : String
  nCreateTime : BitVec 64
  blockHash : BitVec 256
  blockNumber : BitVec 64
  deriving DecidableEq, Repr

namespace CTokenInfo

/-- The object `CTokenInfo()` builds (`SetNull()`). -/
def null : CTokenInfo :=
  { nVersion := 1, strContractAddress := "", strTokenName := "", strTokenSymbol := "",
    nDecimals := 0, strSenderAddress := "", nCreateTime := 0, blockHash := 0,
    blockNumber := -1 }

/-- `SerializationOp` writing (`gethash`: the stream is a hash writer). -/
def serialize (gethash : Bool) (t : CTokenInfo) : List Token :=
  (if gethash then [] else
    ser t.nVersion ++ ser t.nCreateTime ++ ser t.strTokenName ++ ser t.strTokenSymbol ++
      ser t.blockHash ++ ser t.blockNumber) ++
  ser t.nDecimals ++ ser t.strContractAddress ++ ser t.strSenderAddress

/-- `SerializationOp` reading into `t`. -/
def unserialize (gethash : Bool) (t : CTokenInfo) : Reader CTokenInfo := do
  let t ← if gethash then pure t else do
    let nVersion ← unser
    let nCreateTime ← unser
    let strTokenName ← unser
    let strTokenSymbol ← unser
    let blockHash ← unser
    let blockNumber ← unser
    pure { t with nVersion, nCreateTime, strTokenName, strTokenSymbol, blockHash, blockNumber }
  let nDecimals ← unser
  let strContractAddress ← unser
  let strSenderAddress ← unser
  pure { t with nDecimals, strContractAddress, strSenderAddress }

theorem diskRoundTrip (t t₀ : CTokenInfo) (rest : List Token) :
    unserialize false t₀ (serialize false t ++ rest) = some (t, rest) := by
  simp only [unserialize, serialize, Bool.false_eq_true, if_false, List.append_assoc,
    bind_assoc, unser_bind, pure_bind]
  rfl

end CTokenInfo

/-! ## §3. `CTokenTx`. -/

/-- `CTokenTx`: a token transfer the wallet recorded. -/
structure CTokenTx where
  nVersion : BitVec 32
  strContractAddress : String
  strSenderAddress : String
  strReceiverAddress : String
  nValue : BitVec 256
  transactionHash : BitVec 256
  nCreateTime : BitVec 64
  blockHash : BitVec 256
  blockNumber : BitVec 64
  strLabel : String
  deriving DecidableEq, Repr

namespace CTokenTx

/-- The object `CTokenTx()` builds (`SetNull()`). -/
def null : CTokenTx :=
  { nVersion := 1, strContractAddress := "", strSenderAddress := "", strReceiverAddress := "",
    nValue := 0, transactionHash := 0, nCreateTime := 0, blockHash := 0, blockNumber := -1,
    strLabel := "" }

/-- `SerializationOp` writing: `LIMITED_STRING` writes the label as a plain string. -/
def serialize (gethash : Bool) (t : CTokenTx) : List Token :=
  (if gethash then [] else
    ser t.nVersion ++ ser t.nCreateTime ++ ser t.blockHash ++ ser t.blockNumber ++
      ser t.strLabel) ++
  ser t.strContractAddress ++ ser t.strSenderAddress ++ ser t.strReceiverAddress ++
    ser t.nValue ++ ser t.transactionHash

/-- `SerializationOp` reading into `t`: the label through `LIMITED_STRING(strLabel, 65536)`. -/
def unserialize (gethash : Bool) (t : CTokenTx) : Reader CTokenTx := do
  let t ← if gethash then pure t else do
    let nVersion ← unser
    let nCreateTime ← unser
    let blockHash ← unser
    let blockNumber ← unser
    let strLabel ← readLimitedString 65536
    pure { t with nVersion, nCreateTime, blockHash, blockNumber, strLabel }
  let strContractAddress ← unser
  let strSenderAddress ← unser
  let strReceiverAddress ← unser
  let nValue ← unser
  let transactionHash ← unser
  pure
    { t with strContractAddress, strSenderAddress, strReceiverAddress, nValue, transactionHash }

theorem diskRoundTrip (t t₀ : CTokenTx) (rest : List Token) :
    unserialize false t₀ (serialize false t ++ rest) =
      if t.strLabel.utf8ByteSize ≤ 65536 then some (t, rest) else none := by
  simp only [unserialize, serialize, Bool.false_eq_true, if_false, List.append_assoc,
    bind_assoc, unser_bind, readLimitedString_bind, pure_bind]
  split_ifs <;> rfl

end CTokenTx

/-! ## §4. `CDelegationInfo` and `CSuperStakerInfo`. -/

/-- `CDelegationInfo`: a delegation of this wallet's address to a staker. -/
structure CDelegationInfo where
  nVersion : BitVec 32
  nCreateTime : BitVec 64
  nFee : BitVec 8
  delegateAddress : BitVec 160
  stakerAddress : BitVec 160
  strStakerName : String
  blockNumber : BitVec 64
  createTxHash : BitVec 256
  removeTxHash : BitVec 256
  deriving DecidableEq, Repr

namespace CDelegationInfo

/-- The object `CDelegationInfo()` builds (`SetNull()`). -/
def null : CDelegationInfo :=
  { nVersion := 1, nCreateTime := 0, nFee := 0, delegateAddress := 0, stakerAddress := 0,
    strStakerName := "", blockNumber := -1, createTxHash := 0, removeTxHash := 0 }

def serialize (gethash : Bool) (d : CDelegationInfo) : List Token :=
  (if gethash then [] else
    ser d.nVersion ++ ser d.nCreateTime ++ ser d.nFee ++ ser d.blockNumber ++
      ser d.createTxHash ++ ser d.removeTxHash) ++
  ser d.delegateAddress ++ ser d.stakerAddress ++ ser d.strStakerName

def unserialize (gethash : Bool) (d : CDelegationInfo) : Reader CDelegationInfo := do
  let d ← if gethash then pure d else do
    let nVersion ← unser
    let nCreateTime ← unser
    let nFee ← unser
    let blockNumber ← unser
    let createTxHash ← unser
    let removeTxHash ← unser
    pure { d with nVersion, nCreateTime, nFee, blockNumber, createTxHash, removeTxHash }
  let delegateAddress ← unser
  let stakerAddress ← unser
  let strStakerName ← unser
  pure { d with delegateAddress, stakerAddress, strStakerName }

theorem diskRoundTrip (d d₀ : CDelegationInfo) (rest : List Token) :
    unserialize false d₀ (serialize false d ++ rest) = some (d, rest) := by
  simp only [unserialize, serialize, Bool.false_eq_true, if_false, List.append_assoc,
    bind_assoc, unser_bind, pure_bind]
  rfl

end CDelegationInfo

/-- `CSuperStakerInfo`: a staker this wallet configures for delegations. -/
structure CSuperStakerInfo where
  nVersion : BitVec 32
  nCreateTime : BitVec 64
  stakerAddress : BitVec 160
  strStakerName : String
  fCustomConfig : Bool
  nMinFee : BitVec 8
  nMinDelegateUtxo : BitVec 64
  delegateAddressList : List (BitVec 160)
  nDelegateAddressType : BitVec 32
  deriving DecidableEq, Repr

namespace CSuperStakerInfo

/-- The object `CSuperStakerInfo()` builds (`SetNull()`). -/
def null : CSuperStakerInfo :=
  { nVersion := 1, nCreateTime := 0, stakerAddress := 0, strStakerName := "",
    fCustomConfig := false, nMinFee := 0, nMinDelegateUtxo := 0, delegateAddressList := [],
    nDelegateAddressType := 0 }

def serialize (gethash : Bool) (i : CSuperStakerInfo) : List Token :=
  (if gethash then [] else
    ser i.nVersion ++ ser i.nCreateTime ++ ser i.nMinFee ++ ser i.fCustomConfig ++
      ser i.nMinDelegateUtxo ++ ser i.delegateAddressList ++ ser i.nDelegateAddressType) ++
  ser i.stakerAddress ++ ser i.strStakerName

def unserialize (gethash : Bool) (i : CSuperStakerInfo) : Reader CSuperStakerInfo := do
  let i ← if gethash then pure i else do
    let nVersion ← unser
    let nCreateTime ← unser
    let nMinFee ← unser
    let fCustomConfig ← unser
    let nMinDelegateUtxo ← unser
    let delegateAddressList ← unser
    let nDelegateAddressType ← unser
    pure
      { i with
        nVersion, nCreateTime, nMinFee, fCustomConfig, nMinDelegateUtxo, delegateAddressList,
        nDelegateAddressType }
  let stakerAddress ← unser
  let strStakerName ← unser
  pure { i with stakerAddress, strStakerName }

theorem diskRoundTrip (i i₀ : CSuperStakerInfo) (rest : List Token) :
    unserialize false i₀ (serialize false i ++ rest) = some (i, rest) := by
  simp only [unserialize, serialize, Bool.false_eq_true, if_false, List.append_assoc,
    bind_assoc, unser_bind, pure_bind]
  rfl

end CSuperStakerInfo

/-! ## §5. The records on disk. -/

/-- **Round trip on disk.**  Reading back what `SerializationOp` wrote to a disk stream, into
any object, gives every token, delegation and super-staker record back; a token transaction
comes back exactly when its label is at most 65536 bytes, and its read fails otherwise. -/
theorem tokenRecords_roundTrip (rest : List Token) :
    (∀ t t₀ : CTokenInfo,
      t₀.unserialize false (t.serialize false ++ rest) = some (t, rest)) ∧
    (∀ t t₀ : CTokenTx, t₀.unserialize false (t.serialize false ++ rest) =
      if t.strLabel.utf8ByteSize ≤ 65536 then some (t, rest) else none) ∧
    (∀ d d₀ : CDelegationInfo,
      d₀.unserialize false (d.serialize false ++ rest) = some (d, rest)) ∧
    (∀ i i₀ : CSuperStakerInfo,
      i₀.unserialize false (i.serialize false ++ rest) = some (i, rest)) :=
  ⟨fun t t₀ => t.diskRoundTrip t₀ rest, fun t t₀ => t.diskRoundTrip t₀ rest,
    fun d d₀ => d.diskRoundTrip d₀ rest, fun i i₀ => i.diskRoundTrip i₀ rest⟩

theorem utf8ByteSize_replicate_a (n : Nat) :
    (String.mk (List.replicate n 'a')).utf8ByteSize = n := by
  induction n with
  | zero => rfl
  | succ n ih =>
    rw [String.utf8ByteSize_mk, List.replicate_succ, String.utf8Len_cons] at *
    rw [ih]
    rfl

/-- **Counterexample.**  A token transaction labelled with 65537 bytes is written to disk,
and reading it back fails. -/
theorem tokenTx_longLabel_unreadable :
    CTokenTx.null.unserialize false
      ({ CTokenTx.null with strLabel := String.mk (List.replicate 65537 'a') }.serialize false) =
      none := by
  have h := CTokenTx.diskRoundTrip
    { CTokenTx.null with strLabel := String.mk (List.replicate 65537 'a') } CTokenTx.null []
  rw [List.append_nil, utf8ByteSize_replicate_a] at h
  exact h

end YuPostWallet
