/-
  YuPostWallet.Qt.BumpFee — `WalletModel::bumpFee`: replacing a wallet transaction by one
  paying a higher fee, with the confirmation dialog, the unlock context it opens, and its
  two endings (a PSBT draft copied to the clipboard, or a signed and committed replacement).

  The wallet builds the bump (`createBumpTransaction`), the user confirms the old fee, the
  increase and the new fee, and an `UnlockContext` is opened with `requestUnlock()`.  A wallet
  whose private keys are disabled then fills a PSBT and copies it; any other wallet signs the
  bump and commits it.  The context lives until the function returns, so its destructor runs
  on every path that opened it.

  The wallet's calls and the user's answers are inputs, each with the arguments the code
  passes (`BumpAnswers`); `BitcoinUnits::formatHtmlWithUnit` at the display unit is a
  parameter; `tr(…)` stands for its source text.  The two error paths read the shared
  `errors` vector differently: the first guards `errors[0]` with `errors.size()`, the commit
  path does not, and reading `errors[0]` of an empty vector is undefined: that outcome is
  `none`.

  The context is the one of `YuPostWallet.Qt.UnlockContext`: on every path past the dialog
  the wallet `bumpFee` leaves is what `UnlockContext.destroy` makes of the wallet that
  `requestUnlock` left.
-/
import YuPostWallet.Qt.UnlockContext

namespace YuPostWallet.Bump

open Unlock

/-! ## §1. What the wallet and the user answer, and what the user sees. -/

/-- The answers of one `bumpFee` call: the wallet's calls and the user's choices. -/
structure BumpAnswers (Hash : Type) where
  /-- `createBumpTransaction(hash, coin_control, errors, old_fee, new_fee, mtx)`: the
  contents of `errors` on failure, `(old_fee, new_fee)` on success. -/
  createBumpTransaction : Except (List String) (BitVec 64 × BitVec 64)
  privateKeysDisabled : Bool
  /-- `confirmationDialog.result() == QMessageBox::Yes`. -/
  confirmed : Bool
  /-- The passphrase prompt that `requestUnlock()` raises unlocks the wallet. -/
  unlocks : Bool
  /-- `fillPSBT(SIGHASH_ALL, false, true, psbtx, complete)` returns `TransactionError::OK`. -/
  fillPSBTOk : Bool
  /-- The `complete` it reports. -/
  complete : Bool
  signBumpTransaction : Bool
  /-- `commitBumpTransaction(hash, mtx, errors, new_hash)`: the contents of `errors` on
  failure, `new_hash` on success. -/
  commitBumpTransaction : Except (List String) Hash

/-- What `bumpFee` shows, in order. -/
inductive Ui where
  /-- `QMessageBox::critical(nullptr, title, text)`. -/
  | critical (title text : String)
  /-- `SendConfirmationDialog(title, question).exec()`. -/
  | confirm (title question : String)
  /-- `GUIUtil::setClipboard(EncodeBase64(ssTx.str()))` with the serialized PSBT. -/
  | setClipboard
  /-- `Q_EMIT message(title, text, CClientUIInterface::MSG_INFORMATION)`. -/
  | message (title text : String)
  deriving DecidableEq, Repr

/-- `bumpFee`'s result, its `new_hash` out-parameter when written, what it showed, and the
wallet afterwards. -/
structure Outcome (Hash : Type) where
  result : Bool
  new_hash : Option Hash
  ui : List Ui
  wallet : Wallet
  deriving DecidableEq, Repr

/-- The error box every failure after the user's confirmation shows. -/
def feeBumpError (text : String) : Ui := .critical "Fee bump error" text

/-- The question of the confirmation dialog. -/
def questionString (formatHtmlWithUnit : BitVec 64 → String) (create_psbt : Bool)
    (old_fee new_fee : BitVec 64) : String :=
  (if create_psbt then "Do you want to draft a transaction with fee increase?"
    else "Do you want to increase the fee?") ++
  "<br />" ++ "<table style=\"text-align: left;\">" ++ "<tr><td>" ++ "Current fee:" ++
  "</td><td>" ++ formatHtmlWithUnit old_fee ++ "</td></tr><tr><td>" ++ "Increase:" ++
  "</td><td>" ++ formatHtmlWithUnit (new_fee - old_fee) ++ "</td></tr><tr><td>" ++
  "New fee:" ++ "</td><td>" ++ formatHtmlWithUnit new_fee ++ "</td></tr></table>"

/-! ## §2. `bumpFee`. -/

section BumpFee

variable {Hash : Type} (formatHtmlWithUnit : BitVec 64 → String)

/-- The part of `bumpFee` that runs while the unlock context is alive: the PSBT draft, or
signing and committing.  `none`: the commit failed and `errors[0]` is read from an empty
vector. -/
def bumpWithContext (a : BumpAnswers Hash) : Option (Bool × Option Hash × List Ui) :=
  if a.privateKeysDisabled then
    if !a.fillPSBTOk || a.complete then some (false, none, [feeBumpError "Can't draft transaction."])
    else some (true, none, [.setClipboard, .message "PSBT copied" "Copied to clipboard"])
  else if !a.signBumpTransaction then some (false, none, [feeBumpError "Can't sign transaction."])
  else
    match a.commitBumpTransaction with
    | .ok h => some (true, some h, [])
    | .error errors => errors.head?.map fun e =>
      (false, none, [feeBumpError ("Could not commit transaction" ++ "<br />(" ++ e ++ ")")])

/-- `WalletModel::bumpFee(hash, new_hash)` on the wallet `w`. -/
def bumpFee (w : Wallet) (a : BumpAnswers Hash) : Option (Outcome Hash) :=
  match a.createBumpTransaction with
  | .error errors =>
    some ⟨false, none,
      [feeBumpError ("Increasing transaction fee failed" ++ "<br />(" ++ errors.headD "" ++ ")")],
      w⟩
  | .ok (old_fee, new_fee) =>
    let dialog := Ui.confirm "Confirm fee bump"
      (questionString formatHtmlWithUnit a.privateKeysDisabled old_fee new_fee)
    if !a.confirmed then some ⟨false, none, [dialog], w⟩
    else
      let ctx := requestUnlock w a.unlocks
      if !ctx.1.valid then some ⟨false, none, [dialog], ctx.1.destroy ctx.2⟩
      else (bumpWithContext a).map fun r => ⟨r.1, r.2.1, dialog :: r.2.2, ctx.1.destroy ctx.2⟩

end BumpFee

end YuPostWallet.Bump
