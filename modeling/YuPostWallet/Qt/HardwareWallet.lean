/-
  YuPostWallet.Qt.HardwareWallet — the hardware-wallet handlers of `WalletModel`: the
  key import that `importAddressesData` requests and `checkHardwareWallet` runs on the worker
  thread, the device list that `checkHardwareDevice` refreshes, the two fingerprints, and
  the PSBT decisions `getSignPsbtWithHwiTool`, `createUnsigned` and `hasLedgerProblem`.

  `YuPostHwiTool`, the chain parameters, the command line, the file system and the clock
  are not in src: what they answer is an input of the model, each call with the arguments
  the code passes.  `tr(…)` stands for its source text.

  Main results:
    * `checkHardwareDevice_run` — on every run, each listed device is valid and carries a
      non-empty fingerprint, and the list is refreshed at most once per
      `DEVICE_UPDATE_DELAY`.
  The import's parameters, handed from the GUI thread to the worker field by field, are
  the subject of `YuPostWallet.Qt.HardwareImport`.
-/
import YuPostWallet.Qt.WalletWorker
import Mathlib.Data.String.Basic
import Mathlib.Data.List.Chain

namespace YuPostWallet.Hardware

open Worker (Flags)

/-! ## §1. The key import. -/

/-- The key kinds the import can set up, in the order it tries them. -/
inductive KeyKind where
  | PKH
  | P2SH
  | Bech32
  deriving DecidableEq, Repr

/-- What `importAddressesData` stores for the worker: whether to rescan after the import,
which key kinds to import, and their derivation paths. -/
structure ImportParams where
  rescan : Bool
  importPKH : Bool
  importP2SH : Bool
  importBech32 : Bool
  pathPKH : String
  pathP2SH : String
  pathBech32 : String
  deriving DecidableEq, Repr

/-- What `YuPostHwiTool` answers during one import. -/
structure HwiTool where
  /-- `isConnected(fingerprint, stake)`. -/
  isConnected : String → Bool → Bool
  /-- `getKeyPoolPKH`, `getKeyPoolP2SH`, `getKeyPoolBech32` `(fingerprint, path, desc)`: the
  descriptors, or `none` when the call fails. -/
  getKeyPool : KeyKind → String → String → Option (List String)
  /-- `importMulti(desc)`. -/
  importMulti : List String → Bool
  /-- `errorMessage()`, read right after the failed import of a kind. -/
  errorMessage : KeyKind → String

/-- `bool OK = hwiTool.getKeyPool…(fingerprint, path…, desc); if(OK) OK &= importMulti(desc);` -/
def keysImported (tool : HwiTool) (k : KeyKind) (fingerprint path : String) : Bool :=
  match tool.getKeyPool k fingerprint path with
  | some desc => tool.importMulti desc
  | none => false

/-- The P2SH and Bech32 blocks of the import, on `(error, errorMessage)`: when the kind is
requested and its import fails, set `error` and append the kind's text, after `"\n\n"` when
the message already holds a text. -/
def importKeys (tool : HwiTool) (k : KeyKind) (text : String) (requested : Bool)
    (fingerprint path : String) (st : Bool × String) : Bool × String :=
  if requested && !keysImported tool k fingerprint path then
    (true, (if st.2.isEmpty then st.2 else st.2 ++ "\n\n") ++ (text ++ tool.errorMessage k))
  else st

/-- The PKH block: the same, except that it ASSIGNS its text (`errorMessage = …`). -/
def importKeysPKH (tool : HwiTool) (requested : Bool) (fingerprint path : String)
    (st : Bool × String) : Bool × String :=
  if requested && !keysImported tool .PKH fingerprint path then
    (true, "Import PKH failed.\n" ++ tool.errorMessage .PKH)
  else st

/-- A kind that is not requested never reads its path. -/
theorem importKeys_congr (tool : HwiTool) (k : KeyKind) (text : String) {requested : Bool}
    (fingerprint : String) {path path' : String} (h : requested = true → path = path')
    (st : Bool × String) :
    importKeys tool k text requested fingerprint path st =
      importKeys tool k text requested fingerprint path' st := by
  cases requested
  · rfl
  · rw [h rfl]

theorem importKeysPKH_congr (tool : HwiTool) {requested : Bool} (fingerprint : String)
    {path path' : String} (h : requested = true → path = path') (st : Bool × String) :
    importKeysPKH tool requested fingerprint path st =
      importKeysPKH tool requested fingerprint path' st := by
  cases requested
  · rfl
  · rw [h rfl]

/-- The import on a connected device: PKH, P2SH, then Bech32, from `error = false` and an
empty message. -/
def importAll (tool : HwiTool) (p : ImportParams) (fingerprint : String) : Bool × String :=
  importKeys tool .Bech32 "Import Bech32 failed.\n" p.importBech32 fingerprint p.pathBech32
    (importKeys tool .P2SH "Import P2SH failed.\n" p.importP2SH fingerprint p.pathP2SH
      (importKeysPKH tool p.importPKH fingerprint p.pathPKH (false, "")))

/-- What one run of the import did. -/
structure ImportReport where
  /-- Whether `hwiTool.rescanBlockchain()` ran. -/
  rescanned : Bool
  /-- `Q_EMIT message(title, text, MSG_ERROR | MSG_NOPREFIX)`, when emitted. -/
  message : Option (String × String)
  deriving DecidableEq, Repr

/-- The body of `checkHardwareWallet()` under `if(hardwareWalletInitRequired)`. -/
def runImport (tool : HwiTool) (p : ImportParams) (fingerprint : String) : ImportReport :=
  let st := if tool.isConnected fingerprint false then importAll tool p fingerprint
    else (true, "Ledger not connected.")
  { rescanned := tool.isConnected fingerprint false && p.rescan && !st.1,
    message := if st.1 then
      some ("Import addresses", if st.2.isEmpty then "unknown error" else st.2)
      else none }

/-! ## §2. The handlers' state. -/

/-- A device that `enumerate` reports: its fingerprint and `isValid()`. -/
structure HWDevice where
  fingerprint : String
  valid : Bool
  deriving DecidableEq, Repr

/-- The `WalletModel` fields of the hardware handlers, with the request flags it shares with
the worker thread, and the wallet's staker ledger id (`getStakerLedgerId()`). -/
structure State where
  flags : Flags
  params : ImportParams
  /-- `fingerprint`, the device of the key import and of the non-stake device list. -/
  fingerprint : String
  stakerLedgerId : String
  deviceTime : Int
  devices : List HWDevice
  deriving DecidableEq, Repr

/-- `WalletModel::importAddressesData(...)`: store the parameters, then raise the request. -/
def importAddressesData (s : State) (p : ImportParams) : State :=
  { s with params := p, flags := s.flags.set true .hardwareWalletInitRequired }

/-- `WalletModel::checkHardwareWallet()`: when requested, run the import and clear the request
whatever it did. -/
def checkHardwareWallet (tool : HwiTool) (s : State) : State × Option ImportReport :=
  if s.flags.get .hardwareWalletInitRequired then
    ({ s with flags := s.flags.set false .hardwareWalletInitRequired },
      some (runImport tool s.params s.fingerprint))
  else (s, none)

/-- `WalletModel::getFingerprint(stake)`. -/
def getFingerprint (s : State) (stake : Bool) : String :=
  if stake then s.stakerLedgerId else s.fingerprint

/-- `WalletModel::setFingerprint(value, stake)`. -/
def setFingerprint (s : State) (value : String) (stake : Bool) : State :=
  if stake then { s with stakerLedgerId := value } else { s with fingerprint := value }

/-! ## §3. The device list. -/

/-- The devices of one `hwiTool.enumerate(_devices, stake)` that a refresh keeps: none when
the fingerprint is empty or the enumeration fails, else the valid ones with that
fingerprint, in the tool's order. -/
def matchingDevices (fingerprint : String) (found : Option (List HWDevice)) : List HWDevice :=
  if fingerprint.isEmpty then [] else
  match found with
  | some ds => ds.filter fun d => d.valid && d.fingerprint == fingerprint
  | none => []

/-- What the clock and the tool answer during one `checkHardwareDevice()`. -/
structure DeviceAnswers where
  /-- `GetTimeMillis()` on entry. -/
  time : Int
  /-- `enumerate(_devices, true)`, `none` when it fails. -/
  enumStake : Option (List HWDevice)
  /-- `enumerate(_devices, false)`. -/
  enumNotStake : Option (List HWDevice)
  /-- `GetTimeMillis()` after the enumerations. -/
  timeAfter : Int

section Devices

-- `DEVICE_UPDATE_DELAY`, the refresh period in milliseconds
variable (DEVICE_UPDATE_DELAY : Int)

/-- `WalletModel::checkHardwareDevice()`: when the period since the last refresh has passed,
list the valid devices of the stake fingerprint, then those of the other one. -/
def checkHardwareDevice (a : DeviceAnswers) (s : State) : State :=
  if a.time > DEVICE_UPDATE_DELAY + s.deviceTime then
    { s with
      deviceTime := a.timeAfter,
      devices := matchingDevices (getFingerprint s true) a.enumStake ++
        matchingDevices (getFingerprint s false) a.enumNotStake }
  else s

/-- The calls that touch the device list or its fingerprints. -/
inductive DeviceEvent where
  | checkHardwareDevice (a : DeviceAnswers)
  | setFingerprint (value : String) (stake : Bool)

def deviceStep (s : State) : DeviceEvent → State
  | .checkHardwareDevice a => checkHardwareDevice DEVICE_UPDATE_DELAY a s
  | .setFingerprint value stake => setFingerprint s value stake

def deviceRun (s : State) : List DeviceEvent → State
  | [] => s
  | e :: es => deviceRun (deviceStep DEVICE_UPDATE_DELAY s e) es

/-- The entry times of the calls that refreshed the list. -/
def refreshTimes : State → List DeviceEvent → List Int
  | _, [] => []
  | s, e :: es =>
    (match e with
      | .checkHardwareDevice a => if a.time > DEVICE_UPDATE_DELAY + s.deviceTime then [a.time] else []
      | .setFingerprint _ _ => []) ++
      refreshTimes (deviceStep DEVICE_UPDATE_DELAY s e) es

/-- The list's invariant: every device is valid and has a non-empty fingerprint. -/
def DevicesOk (s : State) : Prop := ∀ d ∈ s.devices, d.valid = true ∧ d.fingerprint ≠ ""

theorem mem_matchingDevices {fp : String} {found : Option (List HWDevice)} {d : HWDevice}
    (h : d ∈ matchingDevices fp found) : d.valid = true ∧ d.fingerprint ≠ "" := by
  unfold matchingDevices at h
  split_ifs at h with hfp
  · cases h
  · rcases found with _ | ds
    · cases h
    · obtain ⟨-, hd⟩ := List.mem_filter.mp h
      simp only [Bool.and_eq_true, beq_iff_eq] at hd
      exact ⟨hd.1, hd.2 ▸ fun h' => hfp ((String.isEmpty_iff _).mpr h')⟩

theorem devicesOk_step {s : State} (e : DeviceEvent) (hs : DevicesOk s) :
    DevicesOk (deviceStep DEVICE_UPDATE_DELAY s e) := by
  cases e with
  | checkHardwareDevice a =>
    simp only [deviceStep, checkHardwareDevice]
    split_ifs
    · intro d hd
      rcases List.mem_append.mp hd with hd | hd <;> exact mem_matchingDevices hd
    · exact hs
  | setFingerprint value stake =>
    simp only [deviceStep, setFingerprint]
    split_ifs <;> exact hs

/-- One call's clock does not go back: `time ≤ timeAfter`. -/
def ClockOk : DeviceEvent → Prop
  | .checkHardwareDevice a => a.time ≤ a.timeAfter
  | .setFingerprint _ _ => True

theorem refreshTimes_cons (s : State) (e : DeviceEvent) (es : List DeviceEvent) :
    refreshTimes DEVICE_UPDATE_DELAY s (e :: es) =
      refreshTimes DEVICE_UPDATE_DELAY s [e] ++
        refreshTimes DEVICE_UPDATE_DELAY (deviceStep DEVICE_UPDATE_DELAY s e) es := by
  simp only [refreshTimes, List.append_nil]

/-- What one step does to the list's clock: a refresh, entered at `a.time`, sets it to the
call's end time; any other step keeps it. -/
theorem deviceStep_cases (s : State) (e : DeviceEvent) :
    (∃ a : DeviceAnswers, e = .checkHardwareDevice a ∧ DEVICE_UPDATE_DELAY + s.deviceTime < a.time ∧
        refreshTimes DEVICE_UPDATE_DELAY s [e] = [a.time] ∧
        (deviceStep DEVICE_UPDATE_DELAY s e).deviceTime = a.timeAfter) ∨
      (refreshTimes DEVICE_UPDATE_DELAY s [e] = [] ∧
        (deviceStep DEVICE_UPDATE_DELAY s e).deviceTime = s.deviceTime) := by
  cases e with
  | checkHardwareDevice a =>
    by_cases hr : a.time > DEVICE_UPDATE_DELAY + s.deviceTime
    · exact .inl ⟨a, rfl, hr, by simp [refreshTimes, hr], by simp [deviceStep, checkHardwareDevice, hr]⟩
    · exact .inr ⟨by simp [refreshTimes, hr], by simp [deviceStep, checkHardwareDevice, hr]⟩
  | setFingerprint value stake =>
    exact .inr ⟨rfl, by simp only [deviceStep, setFingerprint]; split_ifs <;> rfl⟩

theorem refreshTimes_spaced (evs : List DeviceEvent) (hclock : ∀ e ∈ evs, ClockOk e) :
    ∀ s, (refreshTimes DEVICE_UPDATE_DELAY s evs).Chain' (fun t t' => t + DEVICE_UPDATE_DELAY < t') ∧
      ∀ t ∈ (refreshTimes DEVICE_UPDATE_DELAY s evs).head?, DEVICE_UPDATE_DELAY + s.deviceTime < t := by
  induction evs with
  | nil => exact fun _ => ⟨List.chain'_nil, nofun⟩
  | cons e es ih =>
    intro s
    obtain ⟨hchain, hhead⟩ := ih (fun e' he' => hclock e' (List.mem_cons_of_mem _ he'))
      (deviceStep DEVICE_UPDATE_DELAY s e)
    rw [refreshTimes_cons]
    rcases deviceStep_cases DEVICE_UPDATE_DELAY s e with ⟨a, rfl, hr, h1, h2⟩ | ⟨h1, h2⟩ <;>
      rw [h1] <;> rw [h2] at hhead
    · -- a refresh: the next one starts after this call's end, itself after its start
      have hc : a.time ≤ a.timeAfter := hclock _ (List.mem_cons_self _ _)
      rw [List.singleton_append]
      refine ⟨List.chain'_cons'.mpr ⟨fun t ht => ?_, hchain⟩, fun t ht => ?_⟩
      · have := hhead t ht
        omega
      · cases ht
        exact hr
    · exact ⟨hchain, hhead⟩

/-- **The device list over a run.**  From a list that satisfies the invariant (an empty one
does), every state of the run keeps it; and whenever each call's clock does not go back,
successive refreshes start more than `DEVICE_UPDATE_DELAY` apart. -/
theorem checkHardwareDevice_run (s : State) (evs : List DeviceEvent) (hs : DevicesOk s)
    (hclock : ∀ e ∈ evs, ClockOk e) :
    DevicesOk (deviceRun DEVICE_UPDATE_DELAY s evs) ∧
      (refreshTimes DEVICE_UPDATE_DELAY s evs).Chain'
        (fun t t' => t + DEVICE_UPDATE_DELAY < t') := by
  refine ⟨?_, (refreshTimes_spaced DEVICE_UPDATE_DELAY evs hclock s).1⟩
  induction evs generalizing s with
  | nil => exact hs
  | cons e es ih =>
    exact ih _ (devicesOk_step DEVICE_UPDATE_DELAY e hs)
      (fun e' he' => hclock e' (List.mem_cons_of_mem _ he'))

theorem checkHardwareDevice_run_twice :
    DevicesOk ⟨⟨false, true, true⟩, ⟨false, false, false, false, "", "", ""⟩, "", "ab", 0, []⟩ ∧
      (∀ e ∈ [DeviceEvent.checkHardwareDevice ⟨100, some [⟨"ab", true⟩, ⟨"cd", true⟩], none, 101⟩,
          .setFingerprint "cd" false, .checkHardwareDevice ⟨120, none, none, 121⟩,
          .checkHardwareDevice ⟨140, some [⟨"ab", false⟩], some [⟨"cd", true⟩], 141⟩], ClockOk e) ∧
      (DevicesOk (deviceRun 30 ⟨⟨false, true, true⟩, ⟨false, false, false, false, "", "", ""⟩, "",
          "ab", 0, []⟩
          [.checkHardwareDevice ⟨100, some [⟨"ab", true⟩, ⟨"cd", true⟩], none, 101⟩,
            .setFingerprint "cd" false, .checkHardwareDevice ⟨120, none, none, 121⟩,
            .checkHardwareDevice ⟨140, some [⟨"ab", false⟩], some [⟨"cd", true⟩], 141⟩]) ∧
        (refreshTimes 30 ⟨⟨false, true, true⟩, ⟨false, false, false, false, "", "", ""⟩, "", "ab",
          0, []⟩
          [.checkHardwareDevice ⟨100, some [⟨"ab", true⟩, ⟨"cd", true⟩], none, 101⟩,
            .setFingerprint "cd" false, .checkHardwareDevice ⟨120, none, none, 121⟩,
            .checkHardwareDevice ⟨140, some [⟨"ab", false⟩], some [⟨"cd", true⟩], 141⟩]).Chain'
          (fun t t' => t + 30 < t')) :=
  have hc : ∀ e ∈ [DeviceEvent.checkHardwareDevice ⟨100, some [⟨"ab", true⟩, ⟨"cd", true⟩], none, 101⟩,
      .setFingerprint "cd" false, .checkHardwareDevice ⟨120, none, none, 121⟩,
      .checkHardwareDevice ⟨140, some [⟨"ab", false⟩], some [⟨"cd", true⟩], 141⟩], ClockOk e := by
    simp [ClockOk]
  ⟨nofun, hc, checkHardwareDevice_run 30 _ _ nofun hc⟩

end Devices

/-! ## §4. The PSBT decisions. -/

/-- What the chain parameters, the wallet, the command line and the file system answer. -/
structure NodeEnv where
  /-- `::Params().HasHardwareWalletSupport()`. -/
  hasHardwareWalletSupport : Bool
  /-- `wallet().privateKeysDisabled()`. -/
  privateKeysDisabled : Bool
  /-- `gArgs.GetBoolArg("-signpsbtwithhwitool", DEFAULT_SIGN_PSBT_WITH_HWI_TOOL)`. -/
  signPsbtWithHwiTool : Bool
  /-- `QFile::exists(GUIUtil::getHwiToolPath())`. -/
  hwiToolExists : Bool
  /-- `wallet().getEnabledStaking()`. -/
  enabledStaking : Bool
  deriving DecidableEq, Repr

/-- `WalletModel::getSignPsbtWithHwiTool()`. -/
def getSignPsbtWithHwiTool (e : NodeEnv) : Bool :=
  if !e.hasHardwareWalletSupport then false
  else e.privateKeysDisabled && e.signPsbtWithHwiTool

/-- `WalletModel::createUnsigned()`. -/
def createUnsigned (e : NodeEnv) : Bool :=
  if e.privateKeysDisabled then
    if !e.hasHardwareWalletSupport then true
    else if e.hwiToolExists then !getSignPsbtWithHwiTool e
    else true
  else false

/-- `WalletModel::hasLedgerProblem()`. -/
def hasLedgerProblem (e : NodeEnv) (s : State) : Bool :=
  e.privateKeysDisabled && e.enabledStaking && !(getFingerprint s true).isEmpty

end YuPostWallet.Hardware
