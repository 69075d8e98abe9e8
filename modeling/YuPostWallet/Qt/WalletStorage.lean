/-
  YuPostWallet.Qt.WalletStorage — what `WalletModel` asks the wallet to store under names it
  builds from numbers: the receive requests in the destination data, and the backup that
  `restoreWallet` writes before it records a restore.

  `saveReceiveRequest(sAddress, nId, sRequest)` keys a request `"rr"` followed by `ss << nId`,
  the decimal text of the `int64_t` id (the stream uses the classic locale, which the program
  never replaces, so the text is `ToString`'s); an empty request erases the entry, any other
  is added.  `loadReceiveRequests` asks `getDestValues("rr")`.  `restoreWallet(filename,
  param)` backs the wallet up to `wallet.<time>.bak` (`strprintf("wallet.%d.bak",
  GetTime())`) when the file exists, and only when the backup succeeded records the file and
  the parameter; `restore()` reports a recorded file.

  The wallet's destination-data store, `QFile::exists`, `GetTime()` and `backupWallet` are
  not in src: the calls the code makes are the model's output, and their answers its input.

  Main results:
    * `saveReceiveRequest_key` — every key a request is saved or erased under starts with the
      prefix `loadReceiveRequests` reads, and two requests share a key exactly when they share
      the id: the key is the id's text, which `atoi64` reads back;
    * `restoreWallet_backup` — two calls back up to the same file exactly when they run in
      the same second;
    * `restore_run` — after any run of `restoreWallet` calls, the recorded file and parameter
      are those of the LAST call that found its file and backed the wallet up, or the initial
      ones when no call did.
-/
import YuPostWallet.Wallet.WalletTxCodec

namespace YuPostWallet.Storage

/-! ## §1. Receive requests. -/

/-- The destination-data key of receive request `nId`: `"rr" + ss.str()` after `ss << nId`. -/
def receiveRequestKey (nId : BitVec 64) : String := "rr" ++ toStringInt nId.toInt

/-- The destination-data call `saveReceiveRequest` makes; it returns the wallet's answer. -/
inductive DestDataCall (Dest : Type) where
  | eraseDestData (dest : Dest) (key : String)
  | addDestData (dest : Dest) (key value : String)
  deriving DecidableEq, Repr

/-- The key a destination-data call names. -/
def DestDataCall.key {Dest : Type} : DestDataCall Dest → String
  | .eraseDestData _ key | .addDestData _ key _ => key

/-- `WalletModel::saveReceiveRequest(sAddress, nId, sRequest)`. -/
def saveReceiveRequest {Dest : Type} (DecodeDestination : String → Dest) (sAddress : String)
    (nId : BitVec 64) (sRequest : String) : DestDataCall Dest :=
  let dest := DecodeDestination sAddress
  let key := receiveRequestKey nId
  if sRequest.isEmpty then .eraseDestData dest key else .addDestData dest key sRequest

/-- `WalletModel::loadReceiveRequests`: the prefix it hands to `getDestValues`. -/
def loadReceiveRequestsPrefix : String := "rr"

@[simp] theorem key_saveReceiveRequest {Dest : Type} (DecodeDestination : String → Dest)
    (sAddress : String) (nId : BitVec 64) (sRequest : String) :
    (saveReceiveRequest DecodeDestination sAddress nId sRequest).key = receiveRequestKey nId := by
  unfold saveReceiveRequest
  split <;> rfl

/-- The id is read back from its key's text. -/
theorem receiveRequestKey_injective {a b : BitVec 64}
    (h : receiveRequestKey a = receiveRequestKey b) : a = b := by
  have hdata := congrArg String.data h
  simp only [receiveRequestKey, String.data_append] at hdata
  have ht : toStringInt a.toInt = toStringInt b.toInt :=
    String.ext (List.append_cancel_left hdata)
  rw [← atoi64_orderPos a, ← atoi64_orderPos b, ht]

/-- **Receive-request keys.**  Whatever is saved or erased, its key starts with the prefix
`loadReceiveRequests` reads, and two requests (for any addresses) share a key exactly when
they share the id. -/
theorem saveReceiveRequest_key {Dest : Type} (DecodeDestination : String → Dest)
    (sAddress sAddress' : String) (nId nId' : BitVec 64) (sRequest sRequest' : String) :
    (∃ rest, (saveReceiveRequest DecodeDestination sAddress nId sRequest).key =
        loadReceiveRequestsPrefix ++ rest) ∧
      ((saveReceiveRequest DecodeDestination sAddress nId sRequest).key =
          (saveReceiveRequest DecodeDestination sAddress' nId' sRequest').key ↔ nId = nId') := by
  simp only [key_saveReceiveRequest]
  exact ⟨⟨_, rfl⟩, ⟨receiveRequestKey_injective, congrArg receiveRequestKey⟩⟩

/-! ## §2. Restoring from a file. -/

/-- `restorePath` and `restoreParam`. -/
structure RestoreState where
  restorePath : String
  restoreParam : String
  deriving DecidableEq, Repr

/-- The backup `restoreWallet` writes first, in the data directory:
`strprintf("wallet.%d.bak", GetTime())`. -/
def backupName (time : BitVec 64) : String := "wallet." ++ toStringInt time.toInt ++ ".bak"

/-- One `restoreWallet(filename, param)` call and what the environment answers in it:
`QFile::exists(filename)`, `GetTime()` and `backupWallet(walletBak)`. -/
structure RestoreCall where
  filename : String
  param : String
  fileExists : Bool
  time : BitVec 64
  backupWallet : Bool
  deriving DecidableEq, Repr

/-- `WalletModel::restoreWallet(filename, param)`: its result, the backup it asked for, and
the state after it. -/
def restoreWallet (s : RestoreState) (c : RestoreCall) : Bool × Option String × RestoreState :=
  if c.fileExists then
    if c.backupWallet then (true, some (backupName c.time), ⟨c.filename, c.param⟩)
    else (false, some (backupName c.time), s)
  else (false, none, s)

/-- `WalletModel::restore()`. -/
def restore (s : RestoreState) : Bool := !s.restorePath.isEmpty

/-- The state after a run of `restoreWallet` calls. -/
def restoreRun (s : RestoreState) (cs : List RestoreCall) : RestoreState :=
  cs.foldl (fun s c => (restoreWallet s c).2.2) s

/-- A call that records its file: the file exists and the backup succeeded. -/
def RestoreCall.records (c : RestoreCall) : Bool := c.fileExists && c.backupWallet

theorem restoreWallet_state (s : RestoreState) (c : RestoreCall) :
    (restoreWallet s c).2.2 = if c.records then ⟨c.filename, c.param⟩ else s := by
  unfold restoreWallet RestoreCall.records
  cases c.fileExists <;> cases c.backupWallet <;> rfl

/-- The backup is named after the second of the call: two backups share a name exactly when
they were asked for at the same `GetTime()`. -/
theorem backupName_injective {t t' : BitVec 64} (h : backupName t = backupName t') : t = t' := by
  have hdata := congrArg String.data h
  simp only [backupName, String.data_append] at hdata
  have ht : toStringInt t.toInt = toStringInt t'.toInt :=
    String.ext (List.append_cancel_left (List.append_cancel_right hdata))
  rw [← atoi64_orderPos t, ← atoi64_orderPos t', ht]

/-- **Backups are named by the second.**  Two calls that find their files back the wallet up
to the same file exactly when `GetTime()` gave the same second: the later backup overwrites
the earlier one. -/
theorem restoreWallet_backup (s s' : RestoreState) {c c' : RestoreCall}
    (h : c.fileExists = true) (h' : c'.fileExists = true) :
    (restoreWallet s c).2.1 = (restoreWallet s' c').2.1 ↔ c.time = c'.time := by
  have hb : ∀ s (c : RestoreCall), c.fileExists = true →
      (restoreWallet s c).2.1 = some (backupName c.time) := fun s c hc => by
    unfold restoreWallet
    rw [if_pos hc]
    split <;> rfl
  rw [hb s c h, hb s' c' h', Option.some_inj]
  exact ⟨backupName_injective, congrArg backupName⟩

/-- Two restores in the same second, the second one failing its backup: both ask for
`wallet.5.bak`. -/
theorem restoreWallet_backup_sameSecond :
    (⟨"a", "", true, 5, true⟩ : RestoreCall).fileExists = true ∧
      (⟨"b", "", true, 5, false⟩ : RestoreCall).fileExists = true ∧
      ((restoreWallet ⟨"", ""⟩ ⟨"a", "", true, 5, true⟩).2.1 =
          (restoreWallet ⟨"a", ""⟩ ⟨"b", "", true, 5, false⟩).2.1 ↔
        (⟨"a", "", true, 5, true⟩ : RestoreCall).time =
          (⟨"b", "", true, 5, false⟩ : RestoreCall).time) :=
  ⟨rfl, rfl, restoreWallet_backup ⟨"", ""⟩ ⟨"a", ""⟩ rfl rfl⟩

/-- **The last recording call wins.**  After any run of `restoreWallet` calls, the recorded
file and parameter are those of the last call that found its file and backed the wallet up;
when no call did, the state is the initial one. -/
theorem restore_run (s : RestoreState) (cs : List RestoreCall) :
    restoreRun s cs =
      match cs.reverse.find? RestoreCall.records with
      | some c => ⟨c.filename, c.param⟩
      | none => s := by
  induction cs using List.reverseRecOn with
  | nil => rfl
  | append_singleton cs c ih =>
    have hrun : restoreRun s (cs ++ [c]) = (restoreWallet (restoreRun s cs) c).2.2 :=
      List.foldl_append _ _ _ _
    rw [hrun, restoreWallet_state, List.reverse_append, List.reverse_singleton,
      List.singleton_append, List.find?_cons]
    cases c.records
    · exact ih
    · rfl

end YuPostWallet.Storage
