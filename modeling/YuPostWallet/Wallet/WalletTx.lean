/-
  YuPostWallet.Wallet.WalletTx — `CWalletTx`, its `Confirmation`, and the record the
  wallet database stores for it (`CWalletTx::Serialize` / `CWalletTx::Unserialize`).

  The record keeps the fields of an older layout for compatibility, which makes the
  encoding more than a field-by-field copy:
    * the status is NOT written; it is folded into the `(hashBlock, nIndex)` pair with the
      sentinels `nIndex = -1` (conflicted) and `hashBlock = ABANDON_HASH` (abandoned), and
      the reader's four-way branch recovers it;
    * `nOrderPos` and `nTimeSmart` travel as TEXT inside `mapValue` (keys `"n"` and
      `"timesmart"`), next to the legacy key `"fromaccount"`; the reader parses them with
      `atoi64` and erases the reserved keys again;
    * two dummy vectors and a dummy `bool` keep the old positions of `vMerkleBranch`,
      `vtxPrev` and `fSpent`.

  This module is the faithful layer: every definition follows the header line by line.
  The round trip and the status invariant are proved in `Wallet.WalletTxCodec`.
-/
import YuPostWallet.Serialize.Stream
import YuPostWallet.Util.StrEncodings

namespace YuPostWallet

open Serializable

/-! ## §1. `Confirmation`. -/

/-- `CWalletTx::Status`. -/
inductive Status where
  | UNCONFIRMED
  | CONFIRMED
  | CONFLICTED
  | ABANDONED
  deriving DecidableEq, Repr

/-- `CWalletTx::Confirmation`: the status and the `{block height, block hash, index in
block}` triplet; a conflicted transaction's triplet points at the conflicting block. -/
structure Confirmation where
  status : Status := .UNCONFIRMED
  block_height : BitVec 32 := 0
  hashBlock : BitVec 256 := 0
  nIndex : BitVec 32 := 0
  deriving DecidableEq, Repr

/-- `CWalletTx::ABANDON_HASH`: declared in the header, defined with the wallet's
implementation as the `uint256` with value one. -/
def ABANDON_HASH : BitVec 256 := 1

namespace Confirmation

/-- `setAbandoned()`: status `ABANDONED`, the triplet cleared. -/
def setAbandoned (c : Confirmation) : Confirmation :=
  { c with status := .ABANDONED, hashBlock := 0, block_height := 0, nIndex := 0 }

/-- `setConflicted()`: only the status changes. -/
def setConflicted (c : Confirmation) : Confirmation := { c with status := .CONFLICTED }

/-- `setUnconfirmed()`. -/
def setUnconfirmed (c : Confirmation) : Confirmation := { c with status := .UNCONFIRMED }

/-- `setConfirmed()`. -/
def setConfirmed (c : Confirmation) : Confirmation := { c with status := .CONFIRMED }

/-- The hash `Serialize` writes: `ABANDON_HASH` for an abandoned transaction. -/
def serializedHash (c : Confirmation) : BitVec 256 :=
  if c.status = .ABANDONED then ABANDON_HASH else c.hashBlock

/-- The index `Serialize` writes: `-1` for an abandoned or conflicted transaction. -/
def serializedIndex (c : Confirmation) : BitVec 32 :=
  if c.status = .ABANDONED ∨ c.status = .CONFLICTED then -1 else c.nIndex

/-- The reader's four-way branch on `(hashBlock, serializedIndex)`, applied to the
`Confirmation` that `Init` reset and whose `hashBlock` was just read. -/
def decode (c : Confirmation) (serializedIndex : BitVec 32) : Confirmation :=
  if serializedIndex = -1 ∧ c.hashBlock = ABANDON_HASH then c.setAbandoned
  else if serializedIndex = -1 then c.setConflicted
  else if c.hashBlock ≠ 0 then { c with nIndex := serializedIndex }.setConfirmed
  else c

end Confirmation

/-! ## §2. `CWalletTx`. -/

/-- `mapValue_t`. -/
abbrev MapValue := StdMap String String

/-- `CWalletTx`, its persisted fields and the memory-only ones `Init` resets (the wallet
back-pointer, the amount caches and the ordering iterator are not modelled: no function
here reads them). -/
structure CWalletTx where
  mapValue : MapValue
  vOrderForm : List (String × String)
  fTimeReceivedIsTxTime : BitVec 32
  nTimeReceived : BitVec 32
  nTimeSmart : BitVec 32
  fFromMe : Bool
  nOrderPos : BitVec 64
  fChangeCached : Bool
  fInMempool : Bool
  nChangeCached : BitVec 64
  tx : CTransaction
  m_confirm : Confirmation
  deriving DecidableEq

namespace CWalletTx

/-- `Init(pwalletIn)`: every field but `tx` back to its default. -/
def init (w : CWalletTx) : CWalletTx :=
  { w with
    mapValue := .empty, vOrderForm := [], fTimeReceivedIsTxTime := 0, nTimeReceived := 0,
    nTimeSmart := 0, fFromMe := false, fChangeCached := false, fInMempool := false,
    nChangeCached := 0, nOrderPos := -1, m_confirm := {} }

/-- `isAbandoned()`. -/
def isAbandoned (w : CWalletTx) : Bool := w.m_confirm.status = .ABANDONED

/-- `isConflicted()`. -/
def isConflicted (w : CWalletTx) : Bool := w.m_confirm.status = .CONFLICTED

/-- `isUnconfirmed()`. -/
def isUnconfirmed (w : CWalletTx) : Bool := w.m_confirm.status = .UNCONFIRMED

/-- `isConfirmed()`. -/
def isConfirmed (w : CWalletTx) : Bool := w.m_confirm.status = .CONFIRMED

end CWalletTx

/-! ## §3. The order position and the smart time inside `mapValue`. -/

/-- `WriteOrderPos`: nothing for `-1`, else `mapValue["n"] = ToString(nOrderPos)`. -/
def writeOrderPos (nOrderPos : BitVec 64) (mapValue : MapValue) : MapValue :=
  if nOrderPos = -1 then mapValue else mapValue.set "n" (toStringInt nOrderPos.toInt)

/-- `ReadOrderPos`: `-1` when there is no `"n"`, else `atoi64(mapValue["n"])`. -/
def readOrderPos (mapValue : MapValue) : BitVec 64 × MapValue :=
  if mapValue.count "n" = 0 then (-1, mapValue)
  else
    let (s, m) := mapValue.index "n"
    (BitVec.ofInt 64 (atoi64 s), m)

/-- `mapValue.count("timesmart") ? (unsigned int)atoi64(mapValue["timesmart"]) : 0`. -/
def readTimeSmart (mapValue : MapValue) : BitVec 32 × MapValue :=
  if mapValue.count "timesmart" ≠ 0 then
    let (s, m) := mapValue.index "timesmart"
    (BitVec.ofInt 32 (atoi64 s), m)
  else (0, mapValue)

/-- The keys `Serialize` adds to a copy of `mapValue` and `Unserialize` erases. -/
def reservedKeys : List String := ["fromaccount", "spent", "n", "timesmart"]

/-! ## §4. `Serialize` and `Unserialize`. -/

/-- Legacy `CMerkleTx` (an element of the old `vtxPrev`): read for field alignment, its
values discarded. -/
structure CMerkleTx where
  deriving DecidableEq, Repr

/-- `CMerkleTx::Unserialize`: `tx`, `hashBlock`, `vMerkleBranch`, `nIndex`. -/
def CMerkleTx.unserialize : Reader CMerkleTx := do
  let _tx : CTransaction ← unser
  let _hashBlock : BitVec 256 ← unser
  let _vMerkleBranch : List (BitVec 256) ← unser
  let _nIndex : BitVec 32 ← unser
  pure {}

namespace CWalletTx

/-- The copy of `mapValue` that `Serialize` writes. -/
def mapValueCopy (w : CWalletTx) : MapValue :=
  let m := writeOrderPos w.nOrderPos (w.mapValue.set "fromaccount" "")
  if w.nTimeSmart ≠ 0 then m.set "timesmart" (strprintfU w.nTimeSmart) else m

/-- `CWalletTx::Serialize`. -/
def serialize (w : CWalletTx) : List Token :=
  let dummy_vector1 : List (BitVec 8) := []
  let dummy_vector2 : List (BitVec 8) := []
  let dummy_bool := false
  ser w.tx ++ ser w.m_confirm.serializedHash ++ ser dummy_vector1 ++
    ser w.m_confirm.serializedIndex ++ ser dummy_vector2 ++ ser w.mapValueCopy ++
    ser w.vOrderForm ++ ser w.fTimeReceivedIsTxTime ++ ser w.nTimeReceived ++
    ser w.fFromMe ++ ser dummy_bool

/-- `Unserialize` after the stream reads: the status from the sentinels, `nOrderPos` and
`nTimeSmart` out of `mapValue`, the reserved keys erased. -/
def finishUnserialize (w : CWalletTx) (serializedIndex : BitVec 32) : CWalletTx :=
  let (nOrderPos, m) := readOrderPos w.mapValue
  let (nTimeSmart, m) := readTimeSmart m
  { w with
    m_confirm := w.m_confirm.decode serializedIndex, nOrderPos, nTimeSmart,
    mapValue := (((m.erase "fromaccount").erase "spent").erase "n").erase "timesmart" }

/-- `CWalletTx::Unserialize` into the object `w`. -/
def unserialize (w : CWalletTx) : Reader CWalletTx := do
  let w := w.init
  let tx : CTransaction ← unser
  let hashBlock : BitVec 256 ← unser
  let _dummy_vector1 : List (BitVec 256) ← unser
  let serializedIndex : BitVec 32 ← unser
  let _dummy_vector2 : List CMerkleTx ← readVector CMerkleTx.unserialize
  let mapValue : MapValue ← unser
  let vOrderForm : List (String × String) ← unser
  let fTimeReceivedIsTxTime : BitVec 32 ← unser
  let nTimeReceived : BitVec 32 ← unser
  let fFromMe : Bool ← unser
  let _dummy_bool : Bool ← unser
  pure (finishUnserialize
    { w with
      tx, m_confirm := { w.m_confirm with hashBlock }, mapValue, vOrderForm,
      fTimeReceivedIsTxTime, nTimeReceived, fFromMe }
    serializedIndex)

end CWalletTx

end YuPostWallet
